import TableInterfaces.Config.Check
import TableInterfaces.Proofs.Config.Kinds
import TableInterfaces.Proofs.Result

/-!
# Configurations without warnings

A configuration whose settings are of their kinds can be checked. `Config.Unremarkable` says what a
check without warnings has found. Main statement:

* `Config.warnings_eq_nil_iff`: there are no warnings about a configuration just where it is
  unremarkable.
-/

namespace TableInterfaces.Config

open TableInterfaces.Json
open TableInterfaces.Text

/-- The package name is a row of identifiers, interface names start with an identifier or nothing,
the builder is an identifier, sizes are large enough to read, and no setting overrules another. -/
structure Unremarkable (c : Config) : Prop where
  package : ∀ s, c.setting .packageName = .text s →
    ∀ part ∈ splitAtChar '.' s, isIdentifier part.toList = true
  interfaceStart : ∀ s, c.setting .interfaceStart = .text s → s = "" ∨ isIdentifier s.toList = true
  builder : ∀ s, c.setting .builderName = .text s → isIdentifier s.toList = true
  indent : ∀ n, c.setting .indentSize = .int n → 1 ≤ n
  width : ∀ n, c.setting .docWidth = .int n → 20 ≤ n
  mode : ¬(c.flag .immutablePojos = true ∧ c.flag .fluentSetters = true)

variable {c : Config} {s : String} {n : Int}

/-! ## Each check -/

theorem packageWarnings_eq (h : c.setting .packageName = .text s) :
    c.packageWarnings = .ok (if (splitAtChar '.' s).all fun part => isIdentifier part.toList then []
      else ["Invalid package name: " ++ (Value.text s).shown]) := by
  unfold packageWarnings
  rw [h]
  by_cases hs : s = ""
  · subst hs
    rfl
  · simp [isPackageName, Value.truthy, hs, pure, Except.pure]

theorem interfaceStartWarnings_eq (h : c.setting .interfaceStart = .text s) :
    c.interfaceStartWarnings = .ok (if s = "" ∨ isIdentifier s.toList = true then []
      else ["Invalid interface prefix: " ++ (Value.text s).shown]) := by
  unfold interfaceStartWarnings
  rw [h]
  by_cases hs : s = ""
  · subst hs
    rfl
  · simp [Value.truthy, Value.isIdentifierText, hs, pure, Except.pure]

theorem builderWarnings_eq (h : c.setting .builderName = .text s) :
    c.builderWarnings = .ok (if isIdentifier s.toList then []
      else ["Invalid builder name: " ++ (Value.text s).shown]) := by
  unfold builderWarnings
  rw [h]
  rfl

theorem indentWarnings_eq (h : c.setting .indentSize = .int n) :
    c.indentWarnings = .ok (if n < 1 then ["Invalid indent_size: " ++ (Value.int n).display]
      else []) := by
  unfold indentWarnings
  rw [h]
  simp [Value.isBelow, pure, Except.pure]

theorem widthWarnings_eq (h : c.setting .docWidth = .int n) :
    c.widthWarnings = .ok (if n < 20 then ["doc_width too small: " ++ (Value.int n).display]
      else []) := by
  unfold widthWarnings
  rw [h]
  simp [Value.isBelow, pure, Except.pure]

/-! ## All of them -/

/-- A configuration whose settings are of their kinds can be checked. -/
theorem warnings_succeeds (h : c.WellTyped) : Succeeds c.warnings := by
  obtain ⟨name, hname⟩ := SettingKind.admits_text_iff.1 (h .packageName)
  obtain ⟨start, hstart⟩ := SettingKind.admits_text_iff.1 (h .interfaceStart)
  obtain ⟨builder, hbuilder⟩ := SettingKind.admits_text_iff.1 (h .builderName)
  obtain ⟨size, hsize⟩ := SettingKind.admits_number_iff.1 (h .indentSize)
  obtain ⟨width, hwidth⟩ := SettingKind.admits_number_iff.1 (h .docWidth)
  unfold warnings
  rw [packageWarnings_eq hname, interfaceStartWarnings_eq hstart, builderWarnings_eq hbuilder,
    indentWarnings_eq hsize, widthWarnings_eq hwidth]
  exact .ok _

/-- **Nothing to warn about.** The check of a configuration whose settings are of their kinds gives
no warning just where the configuration is unremarkable. -/
theorem warnings_eq_nil_iff (h : c.WellTyped) : c.warnings = .ok [] ↔ c.Unremarkable := by
  obtain ⟨name, hname⟩ := SettingKind.admits_text_iff.1 (h .packageName)
  obtain ⟨start, hstart⟩ := SettingKind.admits_text_iff.1 (h .interfaceStart)
  obtain ⟨builder, hbuilder⟩ := SettingKind.admits_text_iff.1 (h .builderName)
  obtain ⟨size, hsize⟩ := SettingKind.admits_number_iff.1 (h .indentSize)
  obtain ⟨width, hwidth⟩ := SettingKind.admits_number_iff.1 (h .docWidth)
  unfold warnings
  rw [packageWarnings_eq hname, Result.ok_bind, interfaceStartWarnings_eq hstart, Result.ok_bind,
    builderWarnings_eq hbuilder, Result.ok_bind, indentWarnings_eq hsize, Result.ok_bind,
    widthWarnings_eq hwidth, Result.ok_bind]
  constructor
  · intro hnone
    have hnone := Except.ok.inj hnone
    simp only [List.append_eq_nil_iff, ite_eq_left_iff, ite_eq_right_iff, List.cons_ne_nil,
      imp_false, Decidable.not_not, Int.not_lt, List.all_eq_true, modeWarnings,
      Bool.and_eq_true] at hnone
    obtain ⟨⟨⟨⟨⟨hpackage, hbegin⟩, hclass⟩, hindent⟩, hcolumns⟩, hmode⟩ := hnone
    refine ⟨?_, ?_, ?_, ?_, ?_, hmode⟩
    · rintro s hs
      cases hname.symm.trans hs
      exact hpackage
    · rintro s hs
      cases hstart.symm.trans hs
      exact hbegin
    · rintro s hs
      cases hbuilder.symm.trans hs
      exact hclass
    · rintro n hn
      cases hsize.symm.trans hn
      exact hindent
    · rintro n hn
      cases hwidth.symm.trans hn
      exact hcolumns
  · intro hc
    rw [if_pos (List.all_eq_true.2 (hc.package _ hname)), if_pos (hc.interfaceStart _ hstart),
      if_pos (hc.builder _ hbuilder), if_neg (Int.not_lt.2 (hc.indent _ hsize)),
      if_neg (Int.not_lt.2 (hc.width _ hwidth)), modeWarnings,
      if_neg fun hmode => hc.mode (Bool.and_eq_true_iff.1 hmode)]
    rfl

end TableInterfaces.Config
