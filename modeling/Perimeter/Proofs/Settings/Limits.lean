import Mathlib.Data.List.Infix
import Mathlib.Data.List.Sublists
import Perimeter.Proofs.Settings

/-!
Limits on single values. Settings that break a limit are refused with a failure that tells the operator
about the limits on the settings' own values and keeps silent about those on values of a section
(`own_limits_shown`).
-/

namespace Perimeter.Settings

/-- The text of a failure has the message of a limit in it. -/
def Shows (e : Error) (limit : Limit) : Prop := limit.message.toList <:+: e.message.toList

instance (e : Error) (limit : Limit) : Decidable (Shows e limit) :=
  inferInstanceAs (Decidable (limit.message.toList <:+: e.message.toList))

/-- Whether a limit is on one of the settings' own values. -/
def Limit.isOwn (limit : Limit) : Bool := limit.group.isNone

theorem infix_intercalate (sep : List Char) {text : List Char} {texts : List (List Char)}
    (member : text ∈ texts) :
    text <:+: sep.intercalate texts := by
  induction texts with
  | nil => cases member
  | cons first rest ih =>
    rcases List.mem_cons.mp member with rfl | later
    · cases rest with
      | nil => simp
      | cons next rest =>
        rw [List.intercalate_cons_cons, List.append_assoc]
        exact (List.prefix_append ..).isInfix
    · rw [List.intercalate_cons_of_ne_nil (List.ne_nil_of_mem later)]
      exact (ih later).trans (List.suffix_append ..).isInfix

/-- The message of a limit on one of the settings' own values is always told. -/
theorem shows_of_isOwn {ls : List Limit} {limit : Limit} (member : limit ∈ ls)
    (own : limit.isOwn = true) : Shows (limitsBroken ls) limit := by
  have named : limit ∈ ls.filter Limit.isOwn := List.mem_filter.mpr ⟨member, own⟩
  have entry : limit.field ++ ": " ++ limit.message ∈
      (ls.filter Limit.isOwn).map fun limit => limit.field ++ ": " ++ limit.message :=
    List.mem_map.mpr ⟨limit, named, rfl⟩
  have message : limit.message.toList <:+: (limit.field ++ ": " ++ limit.message).toList := by
    rw [String.toList_append]
    exact (List.suffix_append ..).isInfix
  have listed := message.trans (infix_intercalate "; ".toList (List.mem_map_of_mem entry))
  rw [← String.toList_intercalate] at listed
  unfold Shows limitsBroken Error.message
  rw [String.toList_append, String.toList_append]
  exact listed.trans ((List.suffix_append ..).trans (List.suffix_append ..)).isInfix

theorem limitsBroken_filter (ls : List Limit) : limitsBroken (ls.filter Limit.isOwn) = limitsBroken ls := by
  have idempotent : (ls.filter Limit.isOwn).filter Limit.isOwn = ls.filter Limit.isOwn := by simp
  exact congrArg (fun named => Error.validation ("Validation failed: " ++
    "; ".intercalate (named.map fun limit => limit.field ++ ": " ++ limit.message)) none) idempotent

theorem filter_broken_sublist (s : Settings) :
    (s.broken.filter Limit.isOwn).Sublist (limits.filter Limit.isOwn) :=
  List.filter_sublist.filter Limit.isOwn

/-- The message of a limit on a value of a section is never told, whatever else is broken. -/
theorem not_shows_of_section (s : Settings) {limit : Limit} (member : limit ∈ limits)
    (nested : limit.isOwn = false) : ¬ Shows (limitsBroken s.broken) limit := by
  have silent : ∀ own ∈ (limits.filter Limit.isOwn).sublists, ∀ limit ∈ limits,
      limit.isOwn = false → ¬ Shows (limitsBroken own) limit := by decide +kernel
  rw [← limitsBroken_filter]
  exact silent _ (List.mem_sublists.mpr s.filter_broken_sublist) limit member nested

theorem validate_of_broken {s : Settings} (broken : s.broken ≠ []) :
    s.validate = .error (limitsBroken s.broken) := by
  unfold validate
  cases limits : s.broken with
  | nil => exact absurd limits broken
  | cons limit rest => rfl

/-- Settings that break limits are refused with a validation failure, and of the broken limits its text
has the messages of exactly those on the settings' own values. -/
theorem own_limits_shown (s : Settings) (broken : s.broken ≠ []) :
    ∃ text, s.validate = .error (.validation text none) ∧
      ∀ limit ∈ s.broken, Shows (.validation text none) limit ↔ limit.group = none := by
  refine ⟨_, validate_of_broken broken, fun limit member => ?_⟩
  have listed : limit ∈ limits := List.mem_of_mem_filter member
  constructor
  · intro shown
    cases own : limit.isOwn with
    | true => exact Option.isNone_iff_eq_none.mp own
    | false => exact absurd shown (s.not_shows_of_section listed own)
  · intro own
    exact shows_of_isOwn member (Option.isNone_iff_eq_none.mpr own)

/-- Settings with an empty region and no time for idle connections. -/
private def unlimited : Settings :=
  { Settings.initial with region := "", loadBalancer := ⟨0, "AccessLogBucket"⟩ }

/-- Of two broken limits one is told and one is not. -/
theorem own_limits_shown_mixed :
    unlimited.broken ≠ [] ∧ ∃ text, unlimited.validate = .error (.validation text none) ∧
      (∃ told ∈ unlimited.broken, Shows (.validation text none) told) ∧
      ∃ untold ∈ unlimited.broken, ¬ Shows (.validation text none) untold := by
  have broken : unlimited.broken ≠ [] := by decide
  have groups : unlimited.broken.map (·.group) = [none, some "load_balancer"] := by decide
  obtain ⟨text, refused, shown⟩ := own_limits_shown unlimited broken
  obtain ⟨told, own, group⟩ := List.mem_map.mp (groups ▸ List.mem_cons_self ..)
  obtain ⟨untold, nested, group'⟩ := List.mem_map.mp
    (groups ▸ List.mem_cons_of_mem _ (List.mem_singleton_self (some "load_balancer")))
  refine ⟨broken, text, refused, ⟨told, own, (shown told own).mpr group⟩, untold, nested, ?_⟩
  intro shows
  cases group'.symm.trans ((shown untold nested).mp shows)

/-- Settings with no time for idle connections. -/
private def hasty : Settings :=
  { Settings.initial with loadBalancer := ⟨0, "AccessLogBucket"⟩ }

/-- The one limit that is broken is not told. -/
theorem nested_limit_not_shown :
    hasty.broken.map (·.message) = ["Idle timeout must be between 1 and 4000 seconds"] ∧
      hasty.validate = .error (.validation "Validation failed: " none) ∧
      ∀ limit ∈ hasty.broken, ¬ Shows (.validation "Validation failed: " none) limit := by
  have broken : hasty.broken ≠ [] := by decide
  have silent : limitsBroken hasty.broken = .validation "Validation failed: " none := by decide
  refine ⟨by decide, (validate_of_broken broken).trans (congrArg _ silent), ?_⟩
  intro limit member
  rw [← silent]
  have listed : limit ∈ limits := List.mem_of_mem_filter member
  have groups : ∀ limit ∈ hasty.broken, limit.isOwn = false := by decide
  exact hasty.not_shows_of_section listed (groups limit member)

end Perimeter.Settings
