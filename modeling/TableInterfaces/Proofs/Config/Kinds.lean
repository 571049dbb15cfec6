import TableInterfaces.Config.Setting

/-!
# Kinds of settings

Values of a configuration are not checked when it is made. `Config.WellTyped` says that each setting
has a value of the kind it is declared with, which all defaults have (`standard_wellTyped`).
-/

namespace TableInterfaces

open TableInterfaces.Json

/-- The kinds of values that settings are declared with. -/
inductive SettingKind where
  | text
  | optionalText
  | number
  | flag
  | texts
  | textFields
  deriving DecidableEq, Repr

/-- A value is of the kind of a setting. -/
def SettingKind.admits : SettingKind → Value → Bool
  | .text, .text _ => true
  | .optionalText, .null => true
  | .optionalText, .text _ => true
  | .number, .int _ => true
  | .flag, .bool _ => true
  | .texts, .list items => items.all (·.kind == .text)
  | .textFields, .object fields => fields.all (·.2.kind == .text)
  | _, _ => false

namespace SettingKind

variable {v : Value}

theorem admits_text_iff : text.admits v = true ↔ ∃ t, v = .text t := by
  cases v <;> simp [admits]

theorem admits_number_iff : number.admits v = true ↔ ∃ n, v = .int n := by
  cases v <;> simp [admits]

theorem admits_texts_iff :
    texts.admits v = true ↔ ∃ items, v = .list items ∧ ∀ item ∈ items, item.kind = .text := by
  cases v <;> simp [admits]

theorem admits_textFields_iff : textFields.admits v = true ↔
    ∃ fields, v = .object fields ∧ ∀ field ∈ fields, field.2.kind = .text := by
  cases v <;> simp [admits]

end SettingKind

/-- The kind that a setting is declared with. -/
def Setting.kind : Setting → SettingKind
  | .outputDir => .optionalText
  | .packageName | .lineEnding | .interfaceStart | .builderName | .jpaNamespace
  | .validationNamespace => .text
  | .indentSize | .docWidth => .number
  | .interfaceImplements => .texts
  | .typeOverrides => .textFields
  | .useTabs | .immutablePojos | .fluentSetters | .markGenerated | .jpaAnnotations
  | .validationAnnotations | .addComments | .strictTypes => .flag

namespace Config

/-- Every setting has a value of the kind it is declared with. -/
def WellTyped (c : Config) : Prop :=
  ∀ s : Setting, s.kind.admits (c.setting s) = true

instance (c : Config) : Decidable c.WellTyped :=
  decidable_of_iff (∀ s ∈ Setting.all, s.kind.admits (c.setting s) = true)
    ⟨fun h s => h s s.mem_all, fun h s _ => h s⟩

/-- Every default is of the kind of its setting. -/
theorem standard_wellTyped : standard.WellTyped := by
  intro s
  cases s <;> rfl

end Config

end TableInterfaces
