import Perimeter.Encoding.Plan
import Perimeter.Proofs.Naming
import Perimeter.Proofs.Net.Reading
import Perimeter.Text.Split

/-!
What a document keeps of the parts of a plan: words, numbers, lists, fields that are left out where
they are empty, tokens and conditions. No two parts of a kind have the same document, except that a
point in a token hides which of its parts it belongs to.
-/

namespace Perimeter

/-! ### Lists and fields -/

/-- A function that tells the members of two lists apart tells the lists apart. -/
theorem eq_of_map_eq {α β : Type} {f : α → β} {xs ys : List α} (same : xs.map f = ys.map f)
    (apart : ∀ x ∈ xs, ∀ y ∈ ys, f x = f y → x = y) : xs = ys := by
  induction xs generalizing ys with
  | nil =>
    cases ys with
    | nil => rfl
    | cons y ys => cases same
  | cons x xs ih =>
    cases ys with
    | nil => cases same
    | cons y ys =>
      obtain ⟨first, rest⟩ := List.cons.inj same
      have here := apart x (List.mem_cons_self ..) y (List.mem_cons_self ..) first
      have later := ih rest fun x left y right =>
        apart x (List.mem_cons_of_mem _ left) y (List.mem_cons_of_mem _ right)
      rw [here, later]

namespace Document

@[simp] theorem natural_inj {m n : Nat} : natural m = natural n ↔ m = n := by
  rw [natural, natural, integer.injEq, Int.natCast_inj]

@[simp] theorem texts_inj {ss ts : List String} : texts ss = texts ts ↔ ss = ts := by
  rw [texts, texts, list.injEq]
  constructor
  · intro same
    exact eq_of_map_eq same fun _ _ _ _ => text.inj
  · rintro rfl
    rfl

theorem eq_of_optional {α : Type} {f : α → Document} (filled : ∀ a, f a ≠ null) {a b : Option α}
    (apart : ∀ x ∈ a, ∀ y ∈ b, f x = f y → x = y) (same : optional f a = optional f b) : a = b := by
  cases a with
  | none =>
    cases b with
    | none => rfl
    | some y => exact absurd same.symm (filled y)
  | some x =>
    cases b with
    | none => exact absurd same (filled x)
    | some y => exact congrArg some (apart x rfl y rfl same)

/-- A field that can be left out is told from those behind it by its key. -/
theorem fieldIf_append_inj {key : String} {v w : Option Document} {rest more : List (String × Document)}
    (apart : key ∉ rest.map (·.1)) (apart' : key ∉ more.map (·.1)) :
    fieldIf key v ++ rest = fieldIf key w ++ more ↔ v = w ∧ rest = more := by
  constructor
  · intro same
    cases v with
    | none =>
      cases w with
      | none => exact ⟨rfl, same⟩
      | some w =>
        rw [show rest = (key, w) :: more from same] at apart
        exact absurd (List.mem_cons_self ..) apart
    | some v =>
      cases w with
      | none =>
        rw [show more = (key, v) :: rest from same.symm] at apart'
        exact absurd (List.mem_cons_self ..) apart'
      | some w =>
        cases same
        exact ⟨rfl, rfl⟩
  · rintro ⟨rfl, rfl⟩
    rfl

theorem textsIf_eq (key : String) (ss : List String) :
    textsIf key ss = fieldIf key (if ss.isEmpty then none else some (texts ss)) := by
  unfold textsIf
  split
  · rfl
  · rfl

theorem textsIf_append_inj {key : String} {ss ts : List String} {rest more : List (String × Document)}
    (apart : key ∉ rest.map (·.1)) (apart' : key ∉ more.map (·.1)) :
    textsIf key ss ++ rest = textsIf key ts ++ more ↔ ss = ts ∧ rest = more := by
  rw [textsIf_eq, textsIf_eq, fieldIf_append_inj apart apart']
  refine and_congr_left fun _ => ?_
  cases ss with
  | nil =>
    cases ts with
    | nil => simp
    | cons t ts => simp
  | cons s ss =>
    cases ts with
    | nil => simp
    | cons t ts => simp

theorem keys_fieldIf (key : String) (v : Option Document) :
    ∀ k ∈ (fieldIf key v).map (·.1), k = key := by
  cases v with
  | none => simp [fieldIf]
  | some v => simp [fieldIf]

end Document

/-! ### Words -/

@[simp] theorem Ident.toDocument_inj {kind : Ident.Kind} {a b : Ident kind} :
    a.toDocument = b.toDocument ↔ a = b := by
  rw [Ident.toDocument, Ident.toDocument, Document.text.injEq]
  exact ⟨Ident.ext, congrArg _⟩

@[simp] theorem Scheme.label_inj {a b : Scheme} : a.label = b.label ↔ a = b := by
  cases a <;> cases b <;> simp [label]

@[simp] theorem Subnets.label_inj {a b : Subnets} : a.label = b.label ↔ a = b := by
  cases a <;> cases b <;> simp [label]

@[simp] theorem Protocol.label_inj {a b : Protocol} : a.label = b.label ↔ a = b := by
  cases a <;> cases b <;> simp [label]

@[simp] theorem Family.label_inj {a b : Family} : a.label = b.label ↔ a = b := by
  cases a <;> cases b <;> simp [label]

@[simp] theorem Scope.label_inj {a b : Scope} : a.label = b.label ↔ a = b := by
  cases a <;> cases b <;> simp [label]

@[simp] theorem Decision.label_inj {a b : Decision} : a.label = b.label ↔ a = b := by
  cases a <;> cases b <;> simp [label]

@[simp] theorem Topology.Kind.label_inj {a b : Topology.Kind} : a.label = b.label ↔ a = b := by
  cases a <;> cases b <;> simp [label]

@[simp] theorem Cidr.text_inj {a b : Cidr} : a.text = b.text ↔ a = b := ⟨Cidr.text_injective, congrArg _⟩

/-- A country is read back from its code. -/
theorem Country.ofText_text (c : Country) : ofText c.text = .ok c := by
  have read : ∀ n, position? (letter n) = some n := by decide
  simp [ofText, text, read]

@[simp] theorem Country.text_inj {a b : Country} : a.text = b.text ↔ a = b := by
  constructor
  · intro same
    have read := congrArg ofText same
    rw [ofText_text, ofText_text] at read
    exact Except.ok.inj read
  · rintro rfl
    rfl

/-! ### Tokens -/

theorem Ident.point_not_mem {kind : Ident.Kind} (id : Ident kind) : '.' ∉ id.text.toList := by
  obtain ⟨c, cs, letters, letter, _, rest⟩ := (isName_iff _).mp id.named
  rw [letters, List.mem_cons]
  rintro (first | later)
  · rw [← first] at letter
    exact absurd letter (by decide)
  · exact absurd (rest _ later) (by decide)

namespace Token

/-- There is no point in the parts of a token, which points separate in its text. -/
structure Plain (t : Token) : Prop where
  stack : ∀ name ∈ t.stack, '.' ∉ name.toList
  property : '.' ∉ t.property.toList

instance (t : Token) : Decidable t.Plain :=
  decidable_of_iff ((∀ name ∈ t.stack, '.' ∉ name.toList) ∧ '.' ∉ t.property.toList)
    ⟨fun both => ⟨both.1, both.2⟩, fun plain => ⟨plain.1, plain.2⟩⟩

/-- The parts of a token, with points between them. -/
def parts (t : Token) : List Char :=
  match t.stack with
  | some stack => stack.toList ++ '.' :: (t.resource.text.toList ++ '.' :: t.property.toList)
  | none => t.resource.text.toList ++ '.' :: t.property.toList

theorem toList_text (t : Token) : t.text.toList = "$\x7b".toList ++ (t.parts ++ "\x7d".toList) := by
  unfold text parts
  cases t.stack with
  | none => simp
  | some stack => simp

/-- What stands in front of the first point and what stands behind it. -/
private theorem split_at_point {before before' after after' : List Char} (clean : '.' ∉ before)
    (clean' : '.' ∉ before') (same : before ++ '.' :: after = before' ++ '.' :: after') :
    before = before' ∧ after = after' := by
  have pieces := congrArg (Text.splitOn '.') same
  rw [Text.splitOn_append clean, Text.splitOn_append clean'] at pieces
  obtain ⟨rfl, _⟩ := List.cons.inj pieces
  exact ⟨rfl, (List.cons.inj (List.append_cancel_left same)).2⟩

/-- Tokens without points in their parts have texts of their own. -/
theorem text_injective {t u : Token} (plain : t.Plain) (plain' : u.Plain) (same : t.text = u.text) :
    t = u := by
  have clean := t.resource.point_not_mem
  have clean' := u.resource.point_not_mem
  have letters := congrArg String.toList same
  rw [toList_text, toList_text] at letters
  have parts := List.append_cancel_right (List.append_cancel_left letters)
  obtain ⟨stack, resource, property⟩ := t
  obtain ⟨stack', resource', property'⟩ := u
  have joined : ∀ {p p' : String}, resource.text.toList ++ '.' :: p.toList =
      resource'.text.toList ++ '.' :: p'.toList → resource = resource' ∧ p = p' := by
    intro p p' both
    obtain ⟨front, back⟩ := split_at_point clean clean' both
    exact ⟨Ident.ext (String.toList_injective front), String.toList_injective back⟩
  cases stack with
  | none =>
    cases stack' with
    | none =>
      obtain ⟨rfl, rfl⟩ := joined parts
      rfl
    | some name =>
      -- The token of another stack has one point more.
      obtain ⟨_, back⟩ := split_at_point clean (plain'.stack name rfl) parts
      have point : '.' ∈ property.toList := by
        rw [back]
        simp
      exact absurd point plain.property
  | some name =>
    cases stack' with
    | none =>
      obtain ⟨_, back⟩ := split_at_point (plain.stack name rfl) clean' parts
      have point : '.' ∈ property'.toList := by
        rw [← back]
        simp
      exact absurd point plain'.property
    | some name' =>
      obtain ⟨front, back⟩ := split_at_point (plain.stack name rfl) (plain'.stack name' rfl) parts
      obtain ⟨rfl, rfl⟩ := joined back
      rw [String.toList_injective front]

/-- A point hides where one part ends and the next one starts. -/
example : (Token.mk (some "A") (.literal "B") "C").text = (Token.mk none (.literal "A") "B.C").text := rfl

theorem toDocument_injective {t u : Token} (plain : t.Plain) (plain' : u.Plain)
    (same : t.toDocument = u.toDocument) : t = u :=
  text_injective plain plain' (Document.text.inj same)

end Token

/-! ### Conditions -/

mutual

theorem Expression.eq_of_toDocument : ∀ {a b : Expression}, a.toDocument = b.toDocument → a = b
  | .ipSet id, .ipSet id', same => by
    simp only [Expression.toDocument, Document.variant.injEq, true_and, Ident.toDocument_inj] at same
    rw [same]
  | .geo countries, .geo countries', same => by
    simp only [Expression.toDocument, Document.variant.injEq, true_and, Document.texts_inj] at same
    rw [eq_of_map_eq same fun _ _ _ _ => Country.text_inj.mp]
  | .all parts, .all parts', same => by
    simp only [Expression.toDocument, Document.variant.injEq, true_and, Document.list.injEq] at same
    rw [Expression.eq_of_documents same]
  | .ipSet _, .geo _, same | .ipSet _, .all _, same | .geo _, .ipSet _, same | .geo _, .all _, same
  | .all _, .ipSet _, same | .all _, .geo _, same => by simp [Expression.toDocument] at same

theorem Expression.eq_of_documents : ∀ {as bs : List Expression},
    Expression.documents as = Expression.documents bs → as = bs
  | [], [], _ => rfl
  | a :: as, b :: bs, same => by
    simp only [Expression.documents, List.cons.injEq] at same
    rw [Expression.eq_of_toDocument same.1, Expression.eq_of_documents same.2]
  | [], _ :: _, same | _ :: _, [], same => by simp [Expression.documents] at same

end

@[simp] theorem Expression.toDocument_inj {a b : Expression} : a.toDocument = b.toDocument ↔ a = b :=
  ⟨Expression.eq_of_toDocument, congrArg _⟩

@[simp] theorem FirewallRule.toDocument_inj {a b : FirewallRule} :
    a.toDocument = b.toDocument ↔ a = b := by
  cases a
  cases b
  simp [toDocument, UInt32.toNat_inj]

end Perimeter
