import Mathlib.Data.List.Induction
import Perimeter.Settings.Layer

/-!
Values of a document under paths of keys. Setting a value at a path shows there and nowhere that the
path does not reach (`Document.at?_update_self`, `Document.at?_update_of_apart`), so that a layer shows
its last value for a path over what lies beneath (`Layer.at?_apply`).
-/

namespace Perimeter

namespace Document

/-- The value that keys lead to one after another, if there is one. -/
def at? : List String → Document → Option Document
  | [], d => some d
  | key :: keys, d => (d.get? key).bind (at? keys)

theorem lookup_fields (key : String) (d : Document) : lookup key d.fields = d.get? key := by
  cases d <;> rfl

theorem get?_assign (key other : String) (value : Document) (fields : List (String × Document)) :
    (record (assign key value fields)).get? other =
      if other = key then some value else (record fields).get? other :=
  lookup_assign key other value fields

/-- Keys lead past the value behind a step, or there is none. -/
theorem at?_getD_null (keys : List String) (d : Option Document) (deeper : keys ≠ []) :
    (d.getD null).at? keys = d.bind (at? keys) := by
  cases keys with
  | nil => exact absurd rfl deeper
  | cons key keys => cases d <;> rfl

/-- Steps and a path of keys part at two different keys, before either comes to its end. -/
def Apart : List Step → List String → Prop
  | .key a :: steps, b :: keys => a ≠ b ∨ Apart steps keys
  | _, _ => False

instance : (steps : List Step) → (keys : List String) → Decidable (Apart steps keys)
  | .key a :: steps, b :: keys =>
    have := instDecidableApart steps keys
    inferInstanceAs (Decidable (a ≠ b ∨ Apart steps keys))
  | [], _ | .index _ :: _, _ | .key _ :: _, [] => inferInstanceAs (Decidable False)

theorem Apart.keys_ne_nil {steps : List Step} {keys : List String} (apart : Apart steps keys) :
    keys ≠ [] := by
  rintro rfl
  cases steps with
  | nil => exact apart
  | cons step steps => cases step <;> exact apart

/-- What steps away from a path change does not show at the path. -/
theorem at?_update_of_apart {change : Document → Document} {steps : List Step} {keys : List String}
    (apart : Apart steps keys) (d : Document) : (update change steps d).at? keys = d.at? keys := by
  induction steps generalizing keys d with
  | nil => exact apart.elim
  | cons step steps ih =>
    cases step with
    | index position => exact apart.elim
    | key a =>
      cases keys with
      | nil => exact apart.elim
      | cons b keys =>
        rw [update, at?, at?, get?_assign]
        by_cases same : b = a
        · subst same
          have deeper : Apart steps keys := apart.resolve_left fun differs => differs rfl
          rw [if_pos rfl, Option.bind_some, ih deeper, at?_getD_null keys _ deeper.keys_ne_nil,
            lookup_fields]
        · rw [if_neg same]
          exact congrArg (Option.bind · (at? keys)) (lookup_fields b d)

/-- What steps along a path and beyond change shows at the path. -/
theorem at?_update_append (change : Document → Document) (keys : List String) (beyond : List Step)
    (d : Document) : (update change (keys.map .key ++ beyond) d).at? keys =
      some (update change beyond ((d.at? keys).getD null)) := by
  induction keys generalizing d with
  | nil => rfl
  | cons key keys ih =>
    rw [List.map_cons, List.cons_append, update, at?, at?, get?_assign, if_pos rfl, Option.bind_some, ih,
      lookup_fields]
    cases d.get? key with
    | some inner => rfl
    | none =>
      -- Nothing lies behind a key that is not there, at whatever depth.
      cases keys <;> rfl

theorem at?_update_self (change : Document → Document) (keys : List String) (d : Document) :
    (update change (keys.map .key) d).at? keys = some (change ((d.at? keys).getD null)) := by
  have shown := at?_update_append change keys [] d
  rwa [List.append_nil] at shown

/-- Records and lists. -/
def isNested : Document → Bool
  | record _ | list _ => true
  | _ => false

/-- Steps that part from a path of keys at a key, or go on beyond its end. -/
def Beside : List Step → List String → Prop
  | .key a :: steps, b :: keys => a ≠ b ∨ Beside steps keys
  | _ :: _, [] => True
  | _, _ => False

instance : (steps : List Step) → (keys : List String) → Decidable (Beside steps keys)
  | .key a :: steps, b :: keys =>
    have := instDecidableBeside steps keys
    inferInstanceAs (Decidable (a ≠ b ∨ Beside steps keys))
  | .key _ :: _, [] | .index _ :: _, [] => inferInstanceAs (Decidable True)
  | [], _ | .index _ :: _, _ :: _ => inferInstanceAs (Decidable False)

theorem Beside.apart_or_beyond {steps : List Step} {keys : List String} (beside : Beside steps keys) :
    Apart steps keys ∨ ∃ step beyond, steps = keys.map .key ++ step :: beyond := by
  induction keys generalizing steps with
  | nil =>
    cases steps with
    | nil => exact beside.elim
    | cons step beyond => exact .inr ⟨step, beyond, rfl⟩
  | cons b keys ih =>
    cases steps with
    | nil => exact beside.elim
    | cons step steps =>
      cases step with
      | index position => exact beside.elim
      | key a =>
        by_cases same : a = b
        · subst same
          rcases ih (beside.resolve_left fun differs => differs rfl) with apart | ⟨step, beyond, rfl⟩
          · exact .inl (.inr apart)
          · exact .inr ⟨step, beyond, rfl⟩
        · exact .inl (.inl same)

theorem isNested_update (change : Document → Document) (step : Step) (steps : List Step) (d : Document) :
    (update change (step :: steps) d).isNested = true := by
  cases step <;> rfl

/-- A value that takes the place of whatever it is laid over, as any value but a record does. -/
def Replaces (value : Document) : Prop := ∀ under, merge value under = value

end Document

/-- All steps of a path. -/
def Path.all (path : Path) : List Step := .key path.root :: path.steps

theorem Document.at?_setPath_self {path : Path} {keys : List String} {value : Document}
    (here : path.all = keys.map .key) (replaces : value.Replaces) (d : Document) :
    (d.setPath path value).at? keys = some value := by
  have shown := at?_update_self (merge value) keys d
  rw [replaces, ← here] at shown
  exact shown

theorem Document.at?_setPath_of_apart {path : Path} {keys : List String} (apart : Apart path.all keys)
    (d value : Document) : (d.setPath path value).at? keys = d.at? keys :=
  at?_update_of_apart apart d

theorem Document.at?_setPath_of_beyond {path : Path} {keys : List String} {step : Step}
    {beyond : List Step} (further : path.all = keys.map .key ++ step :: beyond) (d value : Document) :
    ∃ shown, (d.setPath path value).at? keys = some shown ∧ shown.isNested = true := by
  have shown := at?_update_append (merge value) keys (step :: beyond) d
  rw [← further] at shown
  exact ⟨_, shown, isNested_update ..⟩

namespace Layer

open Document (Apart Beside Replaces)

/-- The last value of a layer for a path of keys. -/
def value? (keys : List String) (layer : Layer) : Option Document :=
  (layer.reverse.find? fun entry => entry.1.all = keys.map .key).map (·.2)

/-- Each value of a layer is set away from a path of keys or at the path itself, where it replaces what
is there. -/
def Spares (layer : Layer) (keys : List String) : Prop :=
  ∀ entry ∈ layer, Apart entry.1.all keys ∨ entry.1.all = keys.map .key ∧ Replaces entry.2

theorem not_all_of_apart {steps : List Step} {keys : List String} (apart : Apart steps keys) :
    steps ≠ keys.map .key := by
  rintro rfl
  induction keys with
  | nil => exact apart
  | cons key keys ih => exact ih (apart.resolve_left fun differs => differs rfl)

theorem apply_concat (layer : Layer) (entry : Path × Document) (d : Document) :
    Layer.apply (layer ++ [entry]) d = (layer.apply d).setPath entry.1 entry.2 := by
  simp [Layer.apply]

/-- A layer shows its last value for a path over what lies beneath. -/
theorem at?_apply {layer : Layer} {keys : List String} (spares : layer.Spares keys) (d : Document) :
    (layer.apply d).at? keys = (layer.value? keys).or (d.at? keys) := by
  induction layer using List.reverseRecOn with
  | nil => rfl
  | append_singleton layer entry ih =>
    have before := ih fun other member => spares other (List.mem_append_left _ member)
    have last := spares entry (List.mem_append_right _ (List.mem_singleton_self entry))
    rw [apply_concat]
    rcases last with apart | ⟨here, replaces⟩
    · have other : ¬ entry.1.all = keys.map .key := not_all_of_apart apart
      have skipped : value? keys (layer ++ [entry]) = value? keys layer := by
        simp [value?, other]
      rw [skipped, ← before]
      exact Document.at?_setPath_of_apart apart _ _
    · have found : value? keys (layer ++ [entry]) = some entry.2 := by
        simp [value?, here]
      rw [found, Option.some_or]
      exact Document.at?_setPath_self here replaces _

/-- Values beside a path let the one at the path show, or leave a record or a list there. -/
theorem at?_apply_beside {layer : Layer} {keys : List String} {value : Document}
    (clear : ∀ entry ∈ layer, entry.1.all = keys.map .key ∧ entry.2 = value ∨ Beside entry.1.all keys)
    (set : ∃ entry ∈ layer, entry.1.all = keys.map .key) (replaces : value.Replaces) (d : Document) :
    ∃ shown, (layer.apply d).at? keys = some shown ∧ (shown = value ∨ shown.isNested = true) := by
  induction layer using List.reverseRecOn with
  | nil => simp at set
  | append_singleton layer entry ih =>
    have last := clear entry (List.mem_append_right _ (List.mem_singleton_self entry))
    rw [apply_concat]
    rcases last with ⟨here, rfl⟩ | beside
    · exact ⟨_, Document.at?_setPath_self here replaces _, .inl rfl⟩
    · rcases beside.apart_or_beyond with apart | ⟨step, beyond, further⟩
      · have earlier : ∃ entry ∈ layer, entry.1.all = keys.map .key := by
          obtain ⟨other, member, here⟩ := set
          rcases List.mem_append.mp member with before | same
          · exact ⟨other, before, here⟩
          · cases List.mem_singleton.mp same
            exact absurd here (not_all_of_apart apart)
        obtain ⟨shown, found, kind⟩ :=
          ih (fun other member => clear other (List.mem_append_left _ member)) earlier
        exact ⟨shown, (Document.at?_setPath_of_apart apart _ _).trans found, kind⟩
      · obtain ⟨shown, found, nested⟩ := Document.at?_setPath_of_beyond further (Layer.apply layer d) entry.2
        exact ⟨shown, found, .inr nested⟩

end Layer

end Perimeter
