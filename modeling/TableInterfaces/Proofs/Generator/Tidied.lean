import TableInterfaces.Proofs.Generator.Collision
import TableInterfaces.Proofs.Source.Tidied

/-!
# Tidied files

Every file of a run is the tidied text of its sheet, so it has tidy lines. Main statement:

* `Generator.files_tidied`: what tidying does to a text, and how the files of a run start and end.
-/

namespace TableInterfaces

open TableInterfaces.Source
open TableInterfaces.Text

namespace Generator

/-- **Tidy files.** Let lines end in a line feed, alone or behind a carriage return. Tidying a text
gives a text, and the same again when it is repeated. No line of it ends in white space, no two
lines in a row are blank, and its other lines are those of the text that was tidied, in order and
without white space at their ends. Every file that a run gives is tidy like this, starts with the
word of the package line, and ends with the closing brace and one line end. -/
theorem files_tidied {ending : String} (hending : ending = "\n" ∨ ending = "\r\n") :
    (∀ code, ∃ tidy, tidied (.text ending) code = .ok tidy ∧
      tidied (.text ending) tidy = .ok tidy ∧ IsTidy (linesUnder ending tidy) ∧
      filled (linesUnder ending tidy) = (filled (linesUnder ending code)).map trimEnd) ∧
    ∀ (g : Generator) (entities : List Entity) (files : List (String × String)),
      g.config.setting .lineEnding = .text ending → g.files entities = .ok files →
        ∀ file ∈ files, packageWord.toList <+: file.2.toList ∧
          (closeBrace ++ ending).toList <:+ file.2.toList ∧ IsTidy (linesUnder ending file.2) := by
  have hdisjoint := selfDisjoint_of_ending hending
  have hne : ending ≠ "" := by rcases hending with rfl | rfl <;> simp
  constructor
  · intro code
    refine ⟨_, tidied_text hne code, ?_⟩
    rw [tidied_text hne, linesUnder, linesUnder, String.toList_ofList, tidyText_tidyText hdisjoint,
      splitOn_tidyText hdisjoint]
    exact ⟨rfl, tidyLines_isTidy _, filled_tidyLines _⟩
  · intro g entities files hsetting hfiles file hfile
    obtain ⟨run, -, hfiles⟩ := Result.ok_of_bind hfiles
    obtain ⟨run', e, parts, sheet, hof⟩ := (filesFrom_ok_iff.1 hfiles).1.exists_fileOf hfile
    obtain ⟨unit, hsource⟩ := hof.source_eq hsetting hne
    rw [linesUnder, hsource, String.toList_ofList]
    exact hof.shown.tidied_ends hending unit

/-- A text with a blank at the end of a line and three blank lines, and the file of a table. -/
theorem order_tidied :
    (∃ tidy, tidied (.text "\n") "case class A \n\n \t\n\n  val b\r" = .ok tidy ∧
      tidied (.text "\n") tidy = .ok tidy ∧
      linesUnder "\n" tidy = ["case class A".toList, [], "  val b".toList]) ∧
    ∃ file, standardJava.files [tableOf "order" "sales"] = .ok [file] ∧
      packageWord.toList <+: file.2.toList ∧ "\x7d\n".toList <:+ file.2.toList ∧
      NoBlankPair (linesUnder "\n" file.2) := by
  obtain ⟨htext, hfiles⟩ := files_tidied (.inl rfl : ("\n" : String) = "\n" ∨ _)
  constructor
  · obtain ⟨tidy, htidy, hagain, -⟩ := htext "case class A \n\n \t\n\n  val b\r"
    refine ⟨tidy, htidy, hagain, ?_⟩
    cases htidy
    decide +kernel
  · have hdocs : (docPolicy standardJava.config).Writes :=
      docPolicy_writes rfl (by decide : (1 : Int) ≤ 80)
    obtain ⟨file, hrun⟩ := files_singleton (g := standardJava) Config.standard_wellTyped rfl hdocs
      ⟨_, rfl⟩ rfl (by decide : "\n" ≠ "") (by decide : (tableOf "order" "sales").WellTyped)
    obtain ⟨hstart, hend, htidy⟩ := hfiles _ _ _ rfl hrun file List.mem_cons_self
    exact ⟨file, hrun, hstart, hend, htidy.parted⟩

end Generator

end TableInterfaces
