import ArchAtlas.Proofs.Codec.Rearranged

/-!
What is written can be read. A codec carries a value if it reads the value again from what it writes,
however the members of objects are rearranged on the way, and if it does not write null, which would
stand for no value. Codecs carry what is made of values that they carry.

* scalars are carried where JSON has a form for them: words within their width, finite numbers;
* `list_carries`, `table_carries`, `variants_carries`: sequences, ordered tables, enumerations;
* `Field.Carries`: a field that is left out is filled in again by its default;
* `record_carries`: a record whose fields are carried, under distinct keys, is carried.
-/

namespace ArchAtlas

variable {α π : Type}

namespace Codec

/-- A value is read again from what it is written as, in whatever order the members of objects stand. -/
def Recovers (c : Codec Json α) (a : α) : Prop :=
  ∀ v, (c.encode a).Rearranged v → c.decode v = .ok a

/-- A value is recovered, and is not written as null. -/
structure Carries (c : Codec Json α) (a : α) : Prop where
  present : c.encode a ≠ .null
  recovers : c.Recovers a

/-! ## Scalars -/

@[simp]
theorem text_carries (s : String) : (text : Codec Json String).Carries s where
  present := nofun
  recovers := by
    rintro v ⟨⟩
    rfl

@[simp]
theorem flag_carries (b : Bool) : (flag : Codec Json Bool).Carries b where
  present := nofun
  recovers := by
    rintro v ⟨⟩
    rfl

theorem word_int {width : Width} {n : Nat} (fits : n < width.size) :
    Medium.word width (Json.int n) = .ok n := by
  have bounds : (0 : Int) ≤ n ∧ (n : Int) < width.size := by omega
  simp [Medium.word, bounds]

/-- How a word is read, whatever the value. -/
theorem u32_decode (v : Json) :
    (u32 : Codec Json UInt32).decode v = (Medium.word .u32 v).map Nat.toUInt32 :=
  rfl

theorem u64_decode (width : Width) (v : Json) :
    (u64 width : Codec Json UInt64).decode v = (Medium.word width v).map Nat.toUInt64 :=
  rfl

@[simp]
theorem u32_carries (n : UInt32) : (u32 : Codec Json UInt32).Carries n where
  present := nofun
  recovers := by
    rintro v ⟨⟩
    have bound := n.toNat_lt
    have fits : n.toNat < Width.u32.size := by
      simp only [Width.size]
      omega
    have read : Medium.word .u32 ((u32 : Codec Json UInt32).encode n) = .ok n.toNat := word_int fits
    rw [u32_decode, read]
    simp [Except.map]

@[simp]
theorem u64_carries {width : Width} (wide : width ≠ .u32) (n : UInt64) :
    (u64 width : Codec Json UInt64).Carries n where
  present := nofun
  recovers := by
    rintro v ⟨⟩
    have bound := n.toNat_lt
    have fits : n.toNat < width.size := by
      cases width with
      | u32 => exact absurd rfl wide
      | u64 | usize =>
        simp only [Width.size]
        omega
    have read : Medium.word width ((u64 width : Codec Json UInt64).encode n) = .ok n.toNat :=
      word_int fits
    rw [u64_decode, read]
    simp [Except.map]

@[simp]
theorem count_carries {n : Nat} (fits : n < Width.usize.size) : (count : Codec Json Nat).Carries n where
  present := nofun
  recovers := by
    rintro v ⟨⟩
    exact word_int fits

@[simp]
theorem real_carries {x : Float} (finite : x.isFinite = true) :
    (real : Codec Json Float).Carries x := by
  have written : (real : Codec Json Float).encode x = .float x := if_pos finite
  constructor
  · rw [written]
    nofun
  · intro v moved
    rw [written] at moved
    cases moved
    rfl

theorem timestamp_carries {t : Timestamp} (reads : Timestamp.parse t.render = .ok t) :
    (timestamp : Codec Json Timestamp).Carries t where
  present := nofun
  recovers := by
    rintro v ⟨⟩
    simp [timestamp, Medium.timestamp, bind, Except.bind, reads, pure, Except.pure]

/-! ## Options, sequences, tables and enumerations -/

theorem option_recovers {c : Codec Json α} {a : Option α} (carried : ∀ x ∈ a, c.Carries x) :
    c.option.Recovers a := by
  intro v moved
  cases a with
  | none =>
    cases moved
    rfl
  | some x =>
    obtain ⟨present, recovers⟩ := carried x rfl
    have read := recovers v moved
    have given : Medium.isNull v = .ok false := by
      have absent := moved.ne_null present
      cases v <;> first | rfl | exact absurd rfl absent
    simp [option, given, read, Except.map]

theorem decodeItems_moved {c : Codec Json α} {as : List α} {items : List Json}
    (carried : ∀ a ∈ as, c.Carries a) (moved : List.Forall₂ Json.Rearranged (as.map c.encode) items) :
    c.decodeItems items = .ok as := by
  induction as generalizing items with
  | nil =>
    cases moved
    rfl
  | cons a as ih =>
    obtain ⟨here, later⟩ := List.forall_mem_cons.mp carried
    cases moved with
    | cons first rest => simp only [decodeItems, here.recovers _ first, ih later rest]

@[simp]
theorem list_carries {c : Codec Json α} {as : List α} (carried : ∀ a ∈ as, c.Carries a) :
    c.list.Carries as where
  present := nofun
  recovers := by
    intro v moved
    obtain ⟨items, rfl, each⟩ := moved.of_arr
    exact decodeItems_moved carried each

theorem decodeEntries_of_forall₂ {c : Codec Json α} {members : List (String × Json)}
    {entries : List (String × α)} (acc : List (String × α))
    (each : List.Forall₂ (fun m e => m.1 = e.1 ∧ c.decode m.2 = .ok e.2) members entries) :
    decodeEntries c acc members =
      .ok (entries.foldl (fun acc e => Json.insertMember e.1 e.2 acc) acc) := by
  induction each generalizing acc with
  | nil => rfl
  | @cons m e _ _ first _ ih =>
    obtain ⟨k, v⟩ := m
    obtain ⟨rfl, read⟩ := first
    simp only [decodeEntries, read, ih, List.foldl_cons]

/-- A table is carried in the order of its keys, which is the order it is put in. -/
theorem table_carries {c : Codec Json α} {entries : List (String × α)}
    (ordered : entries.Pairwise fun a b => a.1 < b.1) (carried : ∀ e ∈ entries, c.Carries e.2) :
    c.table.Carries entries where
  present := nofun
  recovers := by
    intro v moved
    obtain ⟨members, values, rfl, each, perm⟩ := moved.of_obj
    have reads : List.Forall₂ (fun m e => m.1 = e.1 ∧ c.decode m.2 = .ok e.2)
        (((entries.map fun e => (e.1, c.encode e.2)).map Prod.fst).zip values) entries := by
      clear perm moved ordered
      induction entries generalizing values with
      | nil => exact .nil
      | cons e entries ih =>
        obtain ⟨here, later⟩ := List.forall_mem_cons.mp carried
        cases each with
        | cons first rest => exact .cons ⟨rfl, here.recovers _ first⟩ (ih later _ rest)
    obtain ⟨found, readAll, sorted⟩ := List.perm_comp_forall₂ perm reads
    have decoded := decodeEntries_of_forall₂ [] readAll
    rw [Json.foldl_insertMember ordered sorted] at decoded
    exact decoded

/-- A variant is carried where it has a name and names are distinct. -/
theorem variants_carries [BEq α] [LawfulBEq α] {names : List (String × α)} {a : α}
    (distinct : (names.map Prod.fst).Nodup) (named : a ∈ names.map Prod.snd) :
    (variants names : Codec Json α).Carries a where
  present := nofun
  recovers := by
    rintro v ⟨⟩
    obtain ⟨⟨name, b⟩, found⟩ : ∃ n, names.find? (fun n => n.2 == a) = some n := by
      obtain ⟨n, mem, same⟩ := List.mem_map.mp named
      rw [← Option.isSome_iff_exists, List.find?_isSome]
      exact ⟨n, mem, by simp [same]⟩
    obtain rfl : b = a := by simpa using List.find?_some found
    have known : names.lookup name = some b :=
      lookup_of_mem distinct (List.mem_of_find?_eq_some found)
    simp [variants, Medium.variant, bind, Except.bind, found, known, pure, Except.pure]

end Codec

/-! ## Records -/

namespace Field

/-- A value that is left out is the default, and one that is written is recovered. -/
def Carries (field : Field Json α) (a : α) : Prop :=
  if field.skip a then field.absent = some a else field.codec.Recovers a

variable {c : Codec Json α} (key : String)

@[simp]
theorem required_carries {a : α} (carried : c.Carries a) : (required key c).Carries a :=
  carried.recovers

@[simp]
theorem defaulted_carries {value a : α} (carried : c.Carries a) :
    (defaulted key c value).Carries a :=
  carried.recovers

@[simp]
theorem optional_carries {a : Option α} (carried : ∀ x ∈ a, c.Carries x) :
    (optional key c).Carries a := by
  cases a with
  | none => rfl
  | some x => exact Codec.option_recovers carried

@[simp]
theorem mark_carries (b : Bool) : (mark key : Field Json Bool).Carries b := by
  cases b with
  | false => rfl
  | true => exact (Codec.flag_carries true).recovers

@[simp]
theorem unlessEmpty_carries {as : List α} (carried : ∀ a ∈ as, c.Carries a) :
    (unlessEmpty key c).Carries as := by
  cases as with
  | nil => rfl
  | cons a as => exact (Codec.list_carries carried).recovers

theorem lookup_write (field : Field Json α) (a : α) :
    (field.write a).lookup field.key =
      if field.skip a then none else some (field.codec.encode a) := by
  unfold write
  split <;> simp

theorem lookup_write_of_ne {field : Field Json α} (a : α) {other : String}
    (apart : field.key ≠ other) : (field.write a).lookup other = none := by
  unfold write
  split
  · rfl
  · exact lookup_cons_of_ne apart _ []

/-- A value is taken from the member that it was written as, or by default where it was left out. -/
theorem reads_of_carries {field : Field Json α} {a : α} {found : Option Json}
    (carried : field.Carries a)
    (same : Option.Rel Json.Rearranged ((field.write a).lookup field.key) found) :
    field.Reads found a := by
  rw [lookup_write] at same
  unfold Carries at carried
  split at carried
  next skipped =>
    rw [if_pos skipped] at same
    cases same
    exact carried
  next written =>
    rw [if_neg written] at same
    cases same with
    | some moved => exact carried _ moved

end Field

namespace Fields

/-- Every field carries its part of a product. -/
@[simp]
def Carries : {π : Type} → Fields Json π → π → Prop
  | _, .nil, _ => True
  | _, .cons field rest, (a, r) => field.Carries a ∧ rest.Carries r

/-- The members of a record stand in the order of its fields. -/
theorem write_keys_sublist (fields : Fields Json π) (r : π) :
    ((fields.write r).map Prod.fst).Sublist fields.keys := by
  induction fields with
  | nil => exact .slnil
  | cons field rest ih =>
    obtain ⟨a, r⟩ := r
    simp only [write, keys, Field.write]
    split
    · exact (ih r).cons field.key
    · exact (ih r).cons_cons field.key

theorem write_keys_nodup {fields : Fields Json π} (distinct : fields.keys.Nodup) (r : π) :
    ((fields.write r).map Prod.fst).Nodup :=
  distinct.sublist (fields.write_keys_sublist r)

theorem lookup_write_of_not_mem {fields : Fields Json π} {key : String} (r : π)
    (unknown : key ∉ fields.keys) : (fields.write r).lookup key = none := by
  rw [lookup_eq_none_iff_occurrences, occurrences, List.count_eq_zero]
  exact fun mem => unknown ((fields.write_keys_sublist r).subset mem)

/-- Every field takes its part of `s` from whatever its part of `r`, written as a member, becomes on the
way. What a member may become depends on its key. -/
def Passes (becomes : String → Option Json → Option Json → Prop) :
    {π : Type} → Fields Json π → (r s : π) → Prop
  | _, .nil, _, _ => True
  | _, .cons field rest, (a, r), (b, s) =>
    (∀ found, becomes field.key ((field.write a).lookup field.key) found → field.Reads found b) ∧
      rest.Passes becomes r s

/-- Each field finds what its own member has become. -/
theorem reads_of_passes {becomes : String → Option Json → Option Json → Prop}
    {fields : Fields Json π} {r s : π} {moved : List (String × Json)} (distinct : fields.keys.Nodup)
    (passes : fields.Passes becomes r s)
    (found : ∀ key ∈ fields.keys, becomes key ((fields.write r).lookup key) (moved.lookup key)) :
    fields.Reads moved s := by
  induction fields with
  | nil => trivial
  | cons field rest ih =>
    obtain ⟨a, r⟩ := r
    obtain ⟨b, s⟩ := s
    obtain ⟨fresh, distinct⟩ := List.nodup_cons.mp distinct
    obtain ⟨here, later⟩ := passes
    simp only [write, List.lookup_append] at found
    obtain ⟨foundHere, foundLater⟩ := List.forall_mem_cons.mp found
    constructor
    · -- No later field is written under the key of this one.
      rw [lookup_write_of_not_mem r fresh, Option.or_none] at foundHere
      exact here _ foundHere
    · apply ih distinct later
      intro key known
      have apart : field.key ≠ key := (ne_of_mem_of_not_mem known fresh).symm
      simpa only [Field.lookup_write_of_ne a apart, Option.none_or] using foundLater key known

theorem Carries.passes {fields : Fields Json π} {r : π} (carried : fields.Carries r) :
    fields.Passes (fun _ => Option.Rel Json.Rearranged) r r := by
  induction fields with
  | nil => trivial
  | cons field rest ih =>
    obtain ⟨here, later⟩ := carried
    exact ⟨fun found same => Field.reads_of_carries here same, ih later⟩

end Fields

/-- A record is read from members with distinct keys, each of which has become what its field can take
its part from. -/
theorem Codec.record_decode {becomes : String → Option Json → Option Json → Prop} {name : String}
    {fields : Fields Json π} {build : π → α} {view : α → π} {r : π} {b : α}
    {members : List (String × Json)} (distinct : fields.keys.Nodup) (rebuilt : build (view b) = b)
    (passes : fields.Passes becomes r (view b)) (once : (members.map Prod.fst).Nodup)
    (found : ∀ key, becomes key ((fields.write r).lookup key) (members.lookup key)) :
    (record name fields build view).decode (.obj members) = .ok b := by
  have read : fields.readMembers false members = .ok (view b) := by
    rw [fields.readMembers_eq_ok_iff, fields.read_eq_ok_iff]
    refine ⟨fun key _ => List.nodup_iff_count_le_one.mp once key, ?_⟩
    exact Fields.reads_of_passes distinct passes fun key _ => found key
  calc (record name fields build view).decode (.obj members)
      = (fields.readMembers false members).map build := rfl
    _ = .ok b := by rw [read, Except.map, rebuilt]

/-- A record is carried where its fields have distinct keys and each carries its part. -/
theorem Codec.record_carries {name : String} {fields : Fields Json π} {build : π → α} {view : α → π}
    {a : α} (distinct : fields.keys.Nodup) (rebuilt : build (view a) = a)
    (carried : fields.Carries (view a)) : (record name fields build view).Carries a where
  present := nofun
  recovers := by
    intro v moved
    obtain ⟨members, rfl, once, same⟩ :=
      moved.of_obj_distinct (Fields.write_keys_nodup distinct (view a))
    exact record_decode distinct rebuilt carried.passes once same

end ArchAtlas
