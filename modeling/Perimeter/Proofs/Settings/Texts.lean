import Perimeter.Proofs.Decimal
import Perimeter.Proofs.Settings.Layers

/-!
Texts from the environment. What a variable holds is read as a truth value or a number before it is known
that its setting is a text, and is written again afterwards. On the way a truth word loses its capitals, a
whole number the plus and the zeros in front of it, and another number every form but its shortest one.
Every other text is kept (`Settings.text_kept_iff`).
-/

namespace Perimeter

open Document (record)

/-! ### Leaves that hold texts -/

namespace Document

variable {d : Document}

theorem ne_null_of_isNested (nested : d.isNested = true) : d ≠ null := by
  rintro rfl
  cases nested

theorem convertedText?_of_isNested (nested : d.isNested = true) : Reading.convertedText? d = none := by
  cases d with
  | record | list => rfl
  | _ => cases nested

end Document

namespace Setting

/-- The leaves that hold texts. -/
def texts : List Setting := [region, account, domainName, subDomain, vpcId, logBucket, logLevel]

/-- The text that a leaf holds, if it has one. -/
def text? : Setting → Settings → Option String
  | region, s => some s.region
  | account, s => s.account
  | domainName, s => s.domain.name
  | subDomain, s => s.domain.sub
  | vpcId, s => s.network.vpcId
  | logBucket, s => some s.loadBalancer.logBucket
  | logLevel, s => some s.report.level
  | _, _ => none

theorem not_mem_listKeys (setting : Setting) (isText : setting ∈ texts) :
    setting.key ∉ Environment.listKeys := by
  revert setting
  decide

/-- A leaf that holds a text has the text of any value but null that it is read from. -/
theorem exists_text?_of_read? {r : Reading} {setting : Setting} {d : Document} {s : Settings}
    (isText : setting ∈ texts) (filled : d ≠ .null) (read : setting.read? r d = some (setting.get s)) :
    ∃ text, r.text? d = some text ∧ setting.text? s = some text := by
  have own : ∀ {held : Option String}, Document.optional? r.text? d = some held →
      ∃ text, r.text? d = some text ∧ held = some text := by
    intro held read
    rw [Document.optional?_of_ne filled] at read
    obtain ⟨text, made, rfl⟩ := Option.map_eq_some_iff.mp read
    exact ⟨text, made, rfl⟩
  cases setting with
  | region | logBucket | logLevel => exact ⟨_, read, rfl⟩
  | account | domainName | subDomain | vpcId => exact own read
  | _ => simp [texts] at isText

end Setting

/-! ### Texts that are written again -/

namespace Environment

/-- The words for truth values, in any case. -/
def TruthWord (text : String) : Prop := Text.lowerCase text = "true" ∨ Text.lowerCase text = "false"

instance (text : String) : Decidable (TruthWord text) := inferInstanceAs (Decidable (_ ∨ _))

/-- A text as it is written again after it was read. -/
def respelled (text : String) : String :=
  if TruthWord text then Text.lowerCase text
  else
    match Decimal.int64? text.toList, Decimal.float? text.toList with
    | some n, _ => toString n
    | none, some x => x.text
    | none, none => text

/-- A text is not written again as it was. -/
inductive Altered (text : String) : Prop where
  /-- A truth word has capitals. -/
  | truth (word : TruthWord text) (capital : Text.lowerCase text ≠ text)
  /-- A whole number has a plus or zeros in front. -/
  | whole (other : ¬ TruthWord text) (n : Int) (read : Decimal.int64? text.toList = some n)
      (unplain : ¬ Decimal.Plain text.toList)
  /-- Another number is not in its shortest form. -/
  | fraction (other : ¬ TruthWord text) (unwhole : Decimal.int64? text.toList = none) (x : Binary64)
      (read : Decimal.float? text.toList = some x) (longer : x.text ≠ text)

theorem respelled_eq_iff (text : String) : respelled text = text ↔ ¬ Altered text := by
  unfold respelled
  by_cases word : TruthWord text
  · rw [if_pos word]
    constructor
    · rintro same (⟨_, capital⟩ | ⟨other⟩ | ⟨other⟩)
      · exact capital same
      · exact other word
      · exact other word
    · intro kept
      by_contra capital
      exact kept (.truth word capital)
  · rw [if_neg word]
    cases whole : Decimal.int64? text.toList with
    | some n =>
      refine (Decimal.toString_int64?_iff whole).trans ⟨?_, fun kept => ?_⟩
      · rintro plain (⟨truth⟩ | ⟨_, _, _, unplain⟩ | ⟨_, unwhole⟩)
        · exact word truth
        · exact unplain plain
        · cases whole.symm.trans unwhole
      · by_contra unplain
        exact kept (.whole word n whole unplain)
    | none =>
      cases fraction : Decimal.float? text.toList with
      | some x =>
        constructor
        · rintro same (⟨truth⟩ | ⟨_, _, read⟩ | ⟨_, _, _, read, longer⟩)
          · exact word truth
          · cases whole.symm.trans read
          · cases fraction.symm.trans read
            exact longer same
        · intro kept
          by_contra longer
          exact kept (.fraction word whole x fraction longer)
      | none =>
        refine iff_of_true rfl ?_
        rintro (⟨truth⟩ | ⟨_, _, read⟩ | ⟨_, _, _, read⟩)
        · exact word truth
        · cases whole.symm.trans read
        · cases fraction.symm.trans read

/-- Where no list is wanted, the text of a value is the one that it was read from, written again. -/
theorem convertedText?_value {key : String} (single : key ∉ listKeys) (text : String) :
    Reading.convertedText? (value key text) = some (respelled text) := by
  have unlisted : ¬ listKeys.contains key = true := by simpa using single
  unfold value respelled
  by_cases affirmed : Text.lowerCase text = "true"
  · simp [TruthWord, affirmed, Reading.convertedText?]
  · by_cases denied : Text.lowerCase text = "false"
    · simp [TruthWord, denied, Reading.convertedText?]
    · have other : ¬ TruthWord text := by simp [TruthWord, affirmed, denied]
      rw [if_neg (by simpa using affirmed), if_neg (by simpa using denied), if_neg other, if_neg unlisted]
      cases Decimal.int64? text.toList with
      | some n => rfl
      | none => cases Decimal.float? text.toList <;> rfl

/-- A leaf has a text from a variable. Each variable for the leaf holds the text, and no other one sets a
value that the leaf is a part of. -/
structure Holds (env : Environment) (setting : Setting) (text : String) : Prop where
  named : ∃ var ∈ env, key? var.1 = some setting.key
  same : ∀ var ∈ env, key? var.1 = some setting.key → var.2 = text
  beside : ∀ var ∈ env, ∀ key ∈ key? var.1, key ≠ setting.key →
    Document.Beside (Path.ofText key).all setting.keys

variable {env : Environment} {setting : Setting} {text : String}

theorem Holds.at?_layer (holds : env.Holds setting text) (d : Document) :
    ∃ shown, (env.layer.apply d).at? setting.keys = some shown ∧
      (shown = value setting.key text ∨ shown.isNested = true) := by
  refine Layer.at?_apply_beside ?_ ?_ (replaces_value _ _) d
  · intro entry member
    obtain ⟨var, listed, key, named, rfl⟩ := exists_of_mem_layer member
    by_cases own : key = setting.key
    · subst own
      exact .inl ⟨setting.all_ofText_key, congrArg (value _) (holds.same var listed named)⟩
    · exact .inr (holds.beside var listed key named own)
  · obtain ⟨var, listed, named⟩ := holds.named
    obtain ⟨value, member⟩ := exists_mem_layer listed named
    exact ⟨_, member, setting.all_ofText_key⟩

end Environment

namespace Settings

variable {files : String → Option String} {path : Option String} {env : Environment} {formats : Formats}

/-- A text from the environment is loaded as it is written again, whatever the file holds and whatever its
format. It is kept
unless it is a truth word with capitals, a whole number that is not written plainly, or another number that
is not in its shortest form. -/
theorem text_kept_iff {setting : Setting} {text : String} {s : Settings} (isText : setting ∈ Setting.texts)
    (holds : env.Holds setting text) (loaded : load files path env formats = .ok s) :
    setting.text? s = some (Environment.respelled text) ∧
      (setting.text? s = some text ↔ ¬ Environment.Altered text) := by
  have held : setting.text? s = some (Environment.respelled text) := by
    obtain ⟨d, made, read⟩ := load_eq_ok_iff.mp loaded
    obtain ⟨fields, rfl⟩ := exists_of_fileDocument? made
    obtain ⟨both, applied⟩ := env.layer.exists_apply_eq_record fields
    obtain ⟨value, shown, kind⟩ := holds.at?_layer (record fields)
    rw [applied] at read shown
    have read := Setting.read?_of_at? read shown
    rcases kind with rfl | nested
    · have written := Environment.convertedText?_value (setting.not_mem_listKeys isText) text
      have filled : Environment.value setting.key text ≠ .null := by
        intro empty
        rw [empty] at written
        cases written
      obtain ⟨own, made, held⟩ := Setting.exists_text?_of_read? isText filled read
      exact held.trans (made.symm.trans written)
    · -- Where other variables leave a record or a list, no text can be read.
      obtain ⟨own, made, _⟩ := Setting.exists_text?_of_read? isText (Document.ne_null_of_isNested nested) read
      cases made.symm.trans (Document.convertedText?_of_isNested nested)
  refine ⟨held, ?_⟩
  rw [held, Option.some.injEq]
  exact Environment.respelled_eq_iff text

/-- Variables for the network that to import and for the use of a CDN. -/
private def importing : Environment :=
  [("EDGEPLANE__NETWORK__VPC_ID", "vpc-0123456789abcdef0"), ("EDGEPLANE__NETWORK__USE_CDN", "FALSE")]

/-- The identifier of a network is kept, although it has digits in it and another setting of its section is
read as a truth value. -/
theorem text_kept_iff_importing :
    ∃ s, load (fun _ => none) none importing = .ok s ∧ s.network.useCdn = false ∧
      s.network.vpcId = some "vpc-0123456789abcdef0" := by
  have holds : importing.Holds .vpcId "vpc-0123456789abcdef0" := by
    constructor <;> decide +kernel
  have loaded : load (fun _ => none) none importing = .ok
      { Settings.initial with
        network := ⟨false, none, none, some "vpc-0123456789abcdef0", none⟩ } := by
    decide +kernel
  have same : Environment.respelled "vpc-0123456789abcdef0" = "vpc-0123456789abcdef0" := by
    decide +kernel
  have kept := (text_kept_iff (by decide) holds loaded).1
  rw [same] at kept
  exact ⟨_, loaded, rfl, kept⟩

/-- A variable for an account with a zero in front. -/
private def numbered : Environment := [("EDGEPLANE__ACCOUNT", "012345678901")]

/-- The zero in front of an account is lost. -/
theorem account_not_kept :
    numbered.Holds .account "012345678901" ∧ ∃ s, load (fun _ => none) none numbered = .ok s ∧
      s.account = some "12345678901" ∧ s.account ≠ some "012345678901" := by
  have holds : numbered.Holds .account "012345678901" := by
    constructor <;> decide +kernel
  have loaded : load (fun _ => none) none numbered = .ok
      { Settings.initial with account := some "12345678901" } := by
    decide +kernel
  exact ⟨holds, _, loaded, rfl, by decide⟩

end Settings

end Perimeter
