import Perimeter.Proofs.Settings.Leaves
import Perimeter.Settings.Load

/-!
Layers of settings. A file and the environment together give every leaf the value that the environment
alone gives it, if a variable names it, and otherwise the value that the file alone gives it
(`Settings.load_leaf_by_leaf`).
-/

namespace Perimeter

open Document (lookup assign record)

/-! ### Fields that variables set -/

namespace Document

theorem mem_of_lookup {key : String} {fields : List (String × Document)} {value : Document}
    (found : lookup key fields = some value) : (key, value) ∈ fields := by
  induction fields with
  | nil => cases found
  | cons first rest ih =>
    obtain ⟨k, v⟩ := first
    rw [lookup_cons] at found
    by_cases same : k = key
    · rw [if_pos same] at found
      cases found
      exact same ▸ List.mem_cons_self ..
    · rw [if_neg same] at found
      exact List.mem_cons_of_mem _ (ih found)

theorem mem_of_mem_assign {key : String} {value : Document} {fields : List (String × Document)}
    {field : String × Document} (member : field ∈ assign key value fields) :
    field = (key, value) ∨ field ∈ fields := by
  induction fields with
  | nil => exact .inl (List.mem_singleton.mp member)
  | cons first rest ih =>
    obtain ⟨k, v⟩ := first
    by_cases same : k = key
    · rw [assign, if_pos same] at member
      rcases List.mem_cons.mp member with rfl | later
      · exact .inl (by rw [same])
      · exact .inr (List.mem_cons_of_mem _ later)
    · rw [assign, if_neg same] at member
      rcases List.mem_cons.mp member with rfl | later
      · exact .inr (List.mem_cons_self ..)
      · exact (ih later).imp_right (List.mem_cons_of_mem _)

/-- Fields set one after another. -/
def assigned (given : List (String × Document)) : List (String × Document) :=
  given.foldl (fun fields (key, value) => assign key value fields) []

theorem assigned_concat (given : List (String × Document)) (key : String) (value : Document) :
    assigned (given ++ [(key, value)]) = assign key value (assigned given) := by
  simp [assigned]

theorem mem_of_mem_assigned {given : List (String × Document)} {field : String × Document}
    (member : field ∈ assigned given) : field ∈ given := by
  induction given using List.reverseRecOn with
  | nil => exact member
  | append_singleton given last ih =>
    rw [assigned_concat] at member
    rcases mem_of_mem_assign member with rfl | earlier
    · exact List.mem_append_right _ (List.mem_singleton_self _)
    · exact List.mem_append_left _ (ih earlier)

theorem isSome_lookup_assigned (given : List (String × Document)) (key : String) :
    (lookup key (assigned given)).isSome = true ↔ ∃ field ∈ given, field.1 = key := by
  induction given using List.reverseRecOn with
  | nil => simp [assigned, lookup]
  | append_singleton given last ih =>
    rw [assigned_concat, lookup_assign]
    by_cases same : key = last.1
    · simp [same]
    · simp [same, Ne.symm same, ih]

end Document

namespace Environment

theorem exists_of_mem_layer {env : Environment} {entry : Path × Document} (member : entry ∈ env.layer) :
    ∃ var ∈ env, ∃ key, key? var.1 = some key ∧ entry = (.ofText key, value key var.2) := by
  obtain ⟨field, set, rfl⟩ := List.mem_map.mp member
  obtain ⟨var, listed, made⟩ := List.mem_filterMap.mp (Document.mem_of_mem_assigned set)
  obtain ⟨key, named, rfl⟩ := Option.map_eq_some_iff.mp made
  exact ⟨var, listed, key, named, rfl⟩

theorem exists_mem_layer {env : Environment} {var : String × String} {key : String} (listed : var ∈ env)
    (named : key? var.1 = some key) : ∃ value, (Path.ofText key, value) ∈ env.layer := by
  have made : field? var = some (key, value key var.2) := by rw [field?, named, Option.map_some]
  have set : (Document.lookup key env.fields).isSome = true :=
    (Document.isSome_lookup_assigned _ key).mpr ⟨_, List.mem_filterMap.mpr ⟨var, listed, made⟩, rfl⟩
  obtain ⟨value, found⟩ := Option.isSome_iff_exists.mp set
  exact ⟨value, List.mem_map.mpr ⟨_, Document.mem_of_lookup found, rfl⟩⟩

theorem replaces_value (key text : String) : (value key text).Replaces := by
  intro under
  unfold value
  split
  · rfl
  · split
    · rfl
    · split
      · rfl
      · rfl
      · split <;> rfl

end Environment

/-! ### Leaves and their paths -/

namespace Setting

instance {p : Setting → Prop} [DecidablePred p] : Decidable (∀ setting, p setting) :=
  decidable_of_iff _ forall_iff.symm

/-- The key of a leaf as one text. -/
def key (setting : Setting) : String := ".".intercalate setting.keys

/-- The steps to a leaf. -/
def steps (setting : Setting) : List Step := setting.keys.map .key

theorem all_ofText_key (setting : Setting) : (Path.ofText setting.key).all = setting.steps := by
  revert setting
  decide +kernel

theorem apart_of_ne {a b : Setting} (differs : a ≠ b) : Document.Apart a.steps b.keys := by
  revert a b
  decide +kernel

theorem steps_cases (setting : Setting) :
    (∃ a, a ∉ Document.sections ∧ setting.steps = [.key a]) ∨
      ∃ a b, setting.steps = [.key a, .key b] := by
  cases setting with
  | region => exact .inl ⟨"region", by decide, rfl⟩
  | account => exact .inl ⟨"account", by decide, rfl⟩
  | _ => exact .inr ⟨_, _, rfl⟩

theorem steps_injective {a b : Setting} (same : a.steps = b.steps) : a = b := by
  by_contra differs
  exact Layer.not_all_of_apart (apart_of_ne differs) same

end Setting

/-! ### Layers of leaves -/

namespace Layer

/-- A layer sets leaves alone, each to a value that replaces the one there. -/
def SetsLeaves (layer : Layer) : Prop :=
  ∀ entry ∈ layer, (∃ setting : Setting, entry.1.all = setting.steps) ∧ entry.2.Replaces

variable {layer : Layer}

theorem SetsLeaves.spares (leaves : layer.SetsLeaves) (setting : Setting) :
    layer.Spares setting.keys := by
  intro entry member
  obtain ⟨⟨own, path⟩, replaces⟩ := leaves entry member
  by_cases same : own = setting
  · exact .inr ⟨same ▸ path, replaces⟩
  · exact .inl (path ▸ Setting.apart_of_ne same)

theorem isSome_value? (keys : List String) :
    (layer.value? keys).isSome = true ↔ ∃ entry ∈ layer, entry.1.all = keys.map .key := by
  simp [value?, List.find?_isSome]

theorem exists_apply_eq_record (layer : Layer) (fields : List (String × Document)) :
    ∃ fields', layer.apply (record fields) = record fields' := by
  cases layer using List.reverseRecOn with
  | nil => exact ⟨fields, rfl⟩
  | append_singleton layer entry => exact ⟨_, apply_concat layer entry _⟩

/-- Setting a leaf leaves a document whose sections are records one of that kind. -/
theorem sectioned_update {fields : List (String × Document)} (sectioned : (record fields).Sectioned)
    (change : Document → Document) (setting : Setting) :
    ∃ fields', Document.update change setting.steps (record fields) = record fields' ∧
      (record fields').Sectioned := by
  rcases setting.steps_cases with ⟨a, free, path⟩ | ⟨a, b, path⟩
  · rw [path]
    refine ⟨_, rfl, fun key known inner found => ?_⟩
    rw [Document.get?_assign, if_neg (ne_of_mem_of_not_mem known free)] at found
    exact sectioned key known inner found
  · rw [path]
    refine ⟨_, rfl, fun key known inner found => ?_⟩
    rw [Document.get?_assign] at found
    by_cases same : key = a
    · rw [if_pos same] at found
      cases found
      rfl
    · rw [if_neg same] at found
      exact sectioned key known inner found

/-- A layer of leaves leaves a document whose sections are records one of that kind. -/
theorem SetsLeaves.sectioned (leaves : layer.SetsLeaves) {fields : List (String × Document)}
    (sectioned : (record fields).Sectioned) :
    ∃ fields', layer.apply (record fields) = record fields' ∧ (record fields').Sectioned := by
  induction layer using List.reverseRecOn with
  | nil => exact ⟨fields, rfl, sectioned⟩
  | append_singleton layer entry ih =>
    obtain ⟨before, applied, kept⟩ := ih fun other member => leaves other (List.mem_append_left _ member)
    obtain ⟨⟨setting, path⟩, _⟩ := leaves entry (List.mem_append_right _ (List.mem_singleton_self _))
    rw [apply_concat, applied]
    have step := sectioned_update kept (Document.merge entry.2) setting
    rwa [← path] at step

end Layer

/-! ### The environment as a layer -/

namespace Environment

/-- Of the variables with settings, each is the one of a leaf. -/
def SetsLeaves (env : Environment) : Prop :=
  ∀ entry ∈ env, ∀ key, key? entry.1 = some key → ∃ setting : Setting, key = setting.key

/-- Whether some variable names a leaf. -/
def names (env : Environment) (setting : Setting) : Bool :=
  env.any fun entry => key? entry.1 == some setting.key

variable {env : Environment}

theorem SetsLeaves.layer (leaves : env.SetsLeaves) : env.layer.SetsLeaves := by
  intro entry member
  obtain ⟨var, listed, key, named, rfl⟩ := exists_of_mem_layer member
  obtain ⟨setting, rfl⟩ := leaves var listed key named
  exact ⟨⟨setting, setting.all_ofText_key⟩, replaces_value _ _⟩

theorem SetsLeaves.isSome_value? (leaves : env.SetsLeaves) (setting : Setting) :
    (env.layer.value? setting.keys).isSome = env.names setting := by
  rw [Bool.eq_iff_iff, Layer.isSome_value?, names, List.any_eq_true]
  constructor
  · rintro ⟨entry, member, path⟩
    obtain ⟨var, listed, key, named, rfl⟩ := exists_of_mem_layer member
    obtain ⟨own, rfl⟩ := leaves var listed key named
    cases Setting.steps_injective (own.all_ofText_key.symm.trans path)
    exact ⟨var, listed, beq_iff_eq.mpr named⟩
  · rintro ⟨var, listed, named⟩
    obtain ⟨value, member⟩ := exists_mem_layer listed (beq_iff_eq.mp named)
    exact ⟨_, member, setting.all_ofText_key⟩

end Environment

/-! ### Loading -/

namespace Settings

/-- The layer of the file for a path; where there is no file it has no values. -/
def fileLayerFor? (files : String → Option String) (path : Option String) (formats : Formats) :
    Option Layer :=
  match path.bind fun path => find? files path formats with
  | none => some []
  | some (format, content) => fileLayer? format content formats

/-- The document that the file for a path makes by itself. -/
def fileDocument? (files : String → Option String) (path : Option String) (formats : Formats := {}) :
    Option Document :=
  (fileLayerFor? files path formats).map fun file => file.apply (record [])

variable {files : String → Option String} {path : Option String} {env : Environment} {formats : Formats}

theorem ofLayers_eq_ok_iff {file : Layer} {s : Settings} : ofLayers file env = .ok s ↔
    ofDocument? .converting (env.layer.apply (file.apply (record []))) = some s := by
  have stacked : Layer.stack [file, env.layer] = env.layer.apply (file.apply (record [])) := rfl
  unfold ofLayers
  rw [stacked]
  cases ofDocument? .converting (env.layer.apply (file.apply (record []))) with
  | none => simp
  | some other => simp

theorem load_eq_ok_iff {s : Settings} : load files path env formats = .ok s ↔
    ∃ d, fileDocument? files path formats = some d ∧
      ofDocument? .converting (env.layer.apply d) = some s := by
  unfold load fileDocument? fileLayerFor?
  cases path.bind fun path => find? files path formats with
  | none => simp [ofLayers_eq_ok_iff]
  | some file =>
    obtain ⟨format, content⟩ := file
    cases read : fileLayer? format content formats with
    | none => simp [read]
    | some file => simp [read, ofLayers_eq_ok_iff]

theorem exists_of_fileDocument? {d : Document} (made : fileDocument? files path formats = some d) :
    ∃ fields, d = record fields := by
  obtain ⟨file, _, rfl⟩ := Option.map_eq_some_iff.mp made
  exact file.exists_apply_eq_record []

/-- The leaves of one record of settings where a condition holds, and of another one elsewhere. -/
def choose (p : Setting → Bool) (above below : Settings) : Settings :=
  Setting.gather fun setting => if p setting then setting.get above else setting.get below

/-- With an environment over it, a document is read as the environment alone where variables name
leaves, and as it is itself elsewhere. -/
theorem ofDocument?_under_environment {r : Reading} {fields : List (String × Document)}
    {fromFile fromEnv : Settings} (sectioned : (record fields).Sectioned) (leaves : env.SetsLeaves)
    (file : ofDocument? r (record fields) = some fromFile)
    (alone : ofDocument? r (env.layer.apply (record [])) = some fromEnv) :
    ofDocument? r (env.layer.apply (record fields)) = some (choose env.names fromEnv fromFile) := by
  have empty : (record []).Sectioned := fun _ _ _ impossible => nomatch impossible
  obtain ⟨both, madeBoth, sectionedBoth⟩ := leaves.layer.sectioned sectioned
  obtain ⟨own, madeOwn, sectionedOwn⟩ := leaves.layer.sectioned empty
  have shownBoth := fun setting => Layer.at?_apply (leaves.layer.spares setting) (record fields)
  have shownOwn := fun setting => Layer.at?_apply (leaves.layer.spares setting) (record [])
  rw [madeBoth] at shownBoth ⊢
  rw [madeOwn] at shownOwn alone
  have file := (ofDocument?_iff sectioned).mp file
  have alone := (ofDocument?_iff sectionedOwn).mp alone
  refine (ofDocument?_iff sectionedBoth).mpr fun setting => ?_
  have named := leaves.isSome_value? setting
  rw [Setting.Reads, choose, Setting.get_gather, shownBoth]
  cases found : env.layer.value? setting.keys with
  | some value =>
    have own := alone setting
    rw [Setting.Reads, shownOwn, found] at own
    rw [found] at named
    rw [← named]
    exact own
  | none =>
    rw [found] at named
    rw [← named]
    exact file setting

/-- If a file whose sections are records can be loaded by itself, and so can variables that set leaves
alone, then they can be loaded together. Each leaf that a variable names has the value that the
variables alone give it, and every other one has the value that the file alone gives it, which is its
default where the file says nothing about it. This does not depend on the format of the file, nor on what
the readers of further formats make of their files. -/
theorem load_leaf_by_leaf {fromFile fromEnv : Settings}
    (sectioned : ∀ d, fileDocument? files path formats = some d → d.Sectioned)
    (leaves : env.SetsLeaves) (file : load files path [] formats = .ok fromFile)
    (alone : load files none env formats = .ok fromEnv) :
    ∃ s, load files path env formats = .ok s ∧
      (∀ setting, env.names setting = true → setting.get s = setting.get fromEnv) ∧
      (∀ setting, env.names setting = false → setting.get s = setting.get fromFile) ∧
      ∀ setting, env.names setting = false →
        (∀ d, fileDocument? files path formats = some d → d.at? setting.keys = none) →
        setting.get s = setting.get .initial := by
  obtain ⟨d, made, file⟩ := load_eq_ok_iff.mp file
  obtain ⟨_, none, alone⟩ := load_eq_ok_iff.mp alone
  cases none
  obtain ⟨fields, rfl⟩ := exists_of_fileDocument? made
  have both := ofDocument?_under_environment (sectioned _ made) leaves file alone
  have under : ∀ setting, env.names setting = false →
      setting.get (choose env.names fromEnv fromFile) = setting.get fromFile := by
    intro setting unnamed
    rw [choose, Setting.get_gather, unnamed]
    rfl
  refine ⟨_, load_eq_ok_iff.mpr ⟨_, made, both⟩, ?_, under, ?_⟩
  · intro setting named
    rw [choose, Setting.get_gather, if_pos named]
  · intro setting unnamed silent
    have read := (ofDocument?_iff (sectioned _ made)).mp file setting
    have absent : (record fields).at? setting.keys = none := silent _ made
    rw [Setting.Reads, absent] at read
    exact (under setting unnamed).trans (Option.some.inj read).symm

/-- A region and a list of ranges in TOML. -/
private def tomlText : String :=
  "region = \"eu-west-1\"\n\n[access]\nallowed_ipv4_cidrs = [\"10.0.0.0/8\"]\n"

/-- Files that say the same, one in YAML and one in TOML. -/
private def listing (name : String) : Option String :=
  if name = "edge.yaml" then
    some "region: eu-west-1\naccess:\n  allowed_ipv4_cidrs: [10.0.0.0/8]\n"
  else if name = "edge.toml" then some tomlText
  else none

/-- A reader for the one text in TOML. -/
private def readers : Formats where
  toml content :=
    if content = tomlText then
      some (record [("region", .text "eu-west-1"),
        ("access", record [("allowed_ipv4_cidrs", .texts ["10.0.0.0/8"])])])
    else none

/-- Variables with another list of ranges, an account, and something else. -/
private def relisting : Environment :=
  [("EDGEPLANE__ACCESS__ALLOWED_IPV4_CIDRS", "10.1.0.0/16,10.2.0.0/16"), ("edgeplane__Account", "main"),
    ("HOME", "/root")]

private theorem setsLeaves_relisting : relisting.SetsLeaves := by
  have keys : relisting.filterMap (fun entry => Environment.key? entry.1) =
      [Setting.ipv4.key, Setting.account.key] := by decide
  intro entry member key named
  have listed : key ∈ relisting.filterMap fun entry => Environment.key? entry.1 :=
    List.mem_filterMap.mpr ⟨entry, member, named⟩
  rw [keys] at listed
  rcases List.mem_cons.mp listed with rfl | listed
  · exact ⟨_, rfl⟩
  · exact ⟨_, List.mem_singleton.mp listed⟩

/-- The list of the variable stands in the place of the one in the file, in either format. -/
theorem load_leaf_by_leaf_relisted :
    (∃ s, load listing (some "edge.yaml") relisting readers = .ok s ∧
      s.access.ipv4 = some ["10.1.0.0/16", "10.2.0.0/16"] ∧ s.account = some "main" ∧
      s.region = "eu-west-1" ∧ s.loadBalancer.idleTimeout = 600) ∧
    ∃ s, load listing (some "edge.toml") relisting readers = .ok s ∧
      s.access.ipv4 = some ["10.1.0.0/16", "10.2.0.0/16"] ∧ s.account = some "main" ∧
      s.region = "eu-west-1" ∧ s.loadBalancer.idleTimeout = 600 := by
  have alone : load listing none relisting readers = .ok { Settings.initial with
      account := some "main", access := ⟨some ["10.1.0.0/16", "10.2.0.0/16"], none, none⟩ } := by
    decide +kernel
  -- Each file is read once for what it holds and what it says nothing about.
  have read : ∀ path ∈ ["edge.yaml", "edge.toml"],
      (fileDocument? listing (some path) readers).all (fun d =>
        decide d.Sectioned && (d.at? Setting.idleTimeout.keys).isNone) = true ∧
      load listing (some path) [] readers = .ok
        { Settings.initial with region := "eu-west-1", access := ⟨some ["10.0.0.0/8"], none, none⟩ } := by
    decide +kernel
  have made : ∀ path ∈ ["edge.yaml", "edge.toml"],
      ∀ d, fileDocument? listing (some path) readers = some d →
        d.Sectioned ∧ d.at? Setting.idleTimeout.keys = none := by
    intro path member d made
    have holds := (read path member).1
    rw [made, Option.all_some, Bool.and_eq_true] at holds
    exact ⟨of_decide_eq_true holds.1, Option.isNone_iff_eq_none.mp holds.2⟩
  have loads : ∀ path ∈ ["edge.yaml", "edge.toml"],
      ∃ s, load listing (some path) relisting readers = .ok s ∧
        s.access.ipv4 = some ["10.1.0.0/16", "10.2.0.0/16"] ∧ s.account = some "main" ∧
        s.region = "eu-west-1" ∧ s.loadBalancer.idleTimeout = 600 := by
    intro path member
    obtain ⟨s, loaded, named, unnamed, initial⟩ :=
      load_leaf_by_leaf (fun d found => (made path member d found).1) setsLeaves_relisting
        (read path member).2 alone
    exact ⟨s, loaded, named .ipv4 (by decide), named .account (by decide), unnamed .region (by decide),
      initial .idleTimeout (by decide) fun d found => (made path member d found).2⟩
  exact ⟨loads "edge.yaml" (by simp), loads "edge.toml" (by simp)⟩

end Settings

end Perimeter
