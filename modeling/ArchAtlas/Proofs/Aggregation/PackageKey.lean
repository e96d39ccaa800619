import ArchAtlas.Aggregation
import ArchAtlas.Config.Validation
import Mathlib.Data.List.DropRight

/-!
The package of a file by the segments of its path. The key is found by looking for markers such as
`/src/` in the text of the path, for one source root after the other; the rule it follows is about
directories. Main statement: the two give the same for every file and every usable configuration.

* `segmentKey`: the rule, by which the directories behind the last source root count, as many as
  configured;
* `usable_of_validate`: every configuration that is accepted is usable;
* `afterRoot?_joined`: one segment more in front of a path is one more place where a root can stand;
* `Behind`: the segments behind the last source root, which `afterRoots_of_behind` finds in the text;
* `directories_joined`: the directories of a path are its segments without the last;
* `package_key_by_segments`: the key is that of the rule, and what follows for its form.
-/

namespace ArchAtlas.Config.Aggregation

/-- What the rule needs of a configuration: source roots are single segments, and at least one directory
is kept. -/
structure Usable (a : Aggregation) : Prop where
  single : ∀ root ∈ a.sourceRoots, '/' ∉ root.toList
  deep : a.packageDepth ≠ some 0

theorem usable_of_validate {a : Aggregation} (valid : a.validate = .ok ()) : a.Usable := by
  constructor
  · intro root listed slash
    have nested : (a.sourceRoots.any fun r => r = "" || r.toList.contains '/') = true :=
      List.any_eq_true.mpr ⟨root, listed, by simp [slash]⟩
    rw [validate, if_pos nested] at valid
    split at valid
    · rename_i depth _
      cases checked : checkRange "aggregation.package_depth" depth 1 64
        "Use null to keep the whole directory" <;> rw [checked] at valid <;> cases valid
    · cases valid
  · intro zero
    simp [validate, zero, checkRange, bind, Except.bind] at valid

/-- The segments of the path of a file; a backslash divides them too. -/
def segments (file : String) : List (List Char) :=
  (file.toList.map fun c => if c = '\\' then '/' else c).splitOn '/'

def isRoot (a : Aggregation) (segment : List Char) : Bool :=
  String.ofList segment ∈ a.sourceRoots

/-- The directories behind the last one that is a source root, or all where none is; the last segment is
no directory, and empty ones do not count. -/
def below (a : Aggregation) (segments : List (List Char)) : List (List Char) :=
  (segments.dropLast.rtakeWhile fun s => !a.isRoot s).filter fun s => s ≠ []

def kept (a : Aggregation) (directories : List (List Char)) : List (List Char) :=
  match a.packageDepth with
  | some depth => directories.take depth.toNat
  | none => directories

/-- The package of a file by its segments. -/
def segmentKey (a : Aggregation) (file : String) : String :=
  let names := a.kept (a.below (segments file))
  if names = [] then rootPackage else "/".intercalate (names.map String.ofList)

theorem dropLast_append_cons {α : Type} {front back : List α} {x : α} (more : back ≠ []) :
    (front ++ x :: back).dropLast = front ++ x :: back.dropLast := by
  rw [List.dropLast_append_of_ne_nil (by simp), List.dropLast_cons_of_ne_nil more]

/-- The path that has given segments. -/
def joined (segments : List (List Char)) : List Char :=
  ['/'].intercalate segments

theorem joined_cons {s : List Char} {rest : List (List Char)} (more : rest ≠ []) :
    joined (s :: rest) = s ++ '/' :: joined rest := by
  simp [joined, List.intercalate_cons_of_ne_nil more]

theorem joined_concat {init : List (List Char)} (more : init ≠ []) (last : List Char) :
    joined (init ++ [last]) = joined init ++ '/' :: last := by
  induction init with
  | nil => contradiction
  | cons s rest ih =>
    by_cases one : rest = []
    · simp [one, joined]
    · rw [List.cons_append, joined_cons (by simp), ih one, joined_cons one, List.append_assoc,
        List.cons_append]

/-- A path is longer than what stands behind one of its segments. -/
theorem length_joined_lt {front back : List (List Char)} {s : List Char} (more : back ≠ []) :
    (joined back).length < (joined (front ++ s :: back)).length := by
  induction front with
  | nil =>
    rw [List.nil_append, joined_cons more, List.length_append, List.length_cons]
    omega
  | cons f front ih =>
    rw [List.cons_append, joined_cons (by simp), List.length_append, List.length_cons]
    omega

theorem slash_not_mem_splitOn {path s : List Char} (mem : s ∈ path.splitOn '/') : '/' ∉ s := by
  induction path generalizing s with
  | nil =>
    obtain rfl : s = [] := by simpa using mem
    exact List.not_mem_nil
  | cons c path ih =>
    rw [List.splitOn_cons_eq_if_modifyHead] at mem
    split at mem
    · rcases List.mem_cons.mp mem with rfl | mem
      · exact List.not_mem_nil
      · exact ih mem
    · rename_i other
      obtain ⟨first, rest, parts⟩ := List.exists_cons_of_ne_nil (List.splitOn_ne_nil '/' path)
      rw [parts, List.modifyHead_cons] at mem
      rcases List.mem_cons.mp mem with rfl | mem
      · have plain : '/' ∉ first := ih (parts ▸ List.mem_cons_self)
        have apart : '/' ≠ c := fun same => other (by simpa using same.symm)
        simp [plain, apart]
      · exact ih (parts ▸ List.mem_cons_of_mem _ mem)

/-- A marker that starts with a slash does not start in a segment. -/
theorem afterLastInfix?_append {front rest marker : List Char} (plain : '/' ∉ front) :
    Text.afterLastInfix? ('/' :: marker) (front ++ rest) =
      Text.afterLastInfix? ('/' :: marker) rest := by
  induction front with
  | nil => rfl
  | cons c front ih =>
    have apart : '/' ≠ c := fun same => plain (same ▸ List.mem_cons_self)
    rw [List.cons_append, Text.afterLastInfix?, ih fun mem => plain (List.mem_cons_of_mem _ mem)]
    cases Text.afterLastInfix? ('/' :: marker) rest <;> simp [Text.after?, apart]

section

variable {s : List Char} {rest segs back : List (List Char)} {root : String} {roots : List String}

/-- A path starts with a directory exactly when that is its first segment and not its last. -/
theorem after?_joined (single : '/' ∉ root.toList) (plain : '/' ∉ s) :
    Text.after? (root.toList ++ ['/']) (joined (s :: rest)) =
      if String.ofList s = root ∧ rest ≠ [] then some (joined rest) else none := by
  split
  · rename_i here
    obtain ⟨rfl, more⟩ := here
    rw [Text.after?_eq_some_iff, joined_cons more, String.toList_ofList, List.append_assoc,
      List.singleton_append]
  · rename_i elsewhere
    rw [Option.eq_none_iff_forall_ne_some]
    intro back found
    rw [Text.after?_eq_some_iff, List.append_assoc, List.singleton_append] at found
    by_cases more : rest = []
    · rw [more, joined, List.intercalate_singleton] at found
      exact plain (found ▸ by simp)
    · rw [joined_cons more] at found
      have cut : some (s, joined rest) = some (root.toList, back) := by
        rw [← Text.splitFirst?_append plain, found, Text.splitFirst?_append single]
      obtain ⟨same, -⟩ := Prod.mk.inj (Option.some.inj cut)
      exact elsewhere ⟨by rw [same, String.ofList_toList], more⟩

theorem afterRoot?_eq (path : List Char) (root : String) :
    afterRoot? path root =
      (Text.afterLastInfix? ('/' :: (root.toList ++ ['/'])) path).or
        (Text.after? (root.toList ++ ['/']) path) := by
  unfold afterRoot?
  dsimp only
  cases Text.afterLastInfix? ('/' :: (root.toList ++ ['/'])) path <;> rfl

theorem afterRoot?_single (single : '/' ∉ root.toList) (plain : '/' ∉ s) :
    afterRoot? (joined [s]) root = none := by
  have nowhere : Text.afterLastInfix? ('/' :: (root.toList ++ ['/'])) (s ++ []) = none :=
    afterLastInfix?_append plain
  rw [List.append_nil] at nowhere
  have here : joined [s] = s := List.intercalate_singleton
  rw [afterRoot?_eq, after?_joined single plain, here, nowhere]
  simp

/-- A segment in front of a path is one more place for the root, which counts where it stands nowhere
behind. -/
theorem afterRoot?_joined (single : '/' ∉ root.toList) (plain : '/' ∉ s) (more : rest ≠ []) :
    afterRoot? (joined (s :: rest)) root =
      (afterRoot? (joined rest) root).or
        (if String.ofList s = root then some (joined rest) else none) := by
  have marked : Text.afterLastInfix? ('/' :: (root.toList ++ ['/'])) (joined (s :: rest)) =
      afterRoot? (joined rest) root := by
    rw [joined_cons more, afterLastInfix?_append plain, Text.afterLastInfix?, afterRoot?_eq,
      Text.after?, if_pos rfl]
    cases Text.afterLastInfix? ('/' :: (root.toList ++ ['/'])) (joined rest) <;> rfl
  rw [afterRoot?_eq, marked, after?_joined single plain]
  simp [more]

/-- What stands behind the last segment that is a root, the last segment of all apart. -/
def Behind (roots : List String) (segs back : List (List Char)) : Prop :=
  ∃ front s, segs = front ++ s :: back ∧ String.ofList s ∈ roots ∧ back ≠ [] ∧
    ∀ x ∈ back.dropLast, String.ofList x ∉ roots

theorem none_or_behind (roots : List String) (segs : List (List Char)) :
    (∀ x ∈ segs.dropLast, String.ofList x ∉ roots) ∨ ∃ back, Behind roots segs back := by
  induction segs with
  | nil => exact Or.inl fun x mem => absurd mem List.not_mem_nil
  | cons s rest ih =>
    rcases ih with absent | ⟨back, front, t, rfl, found, more, last⟩
    · by_cases more : rest = []
      · subst more
        exact Or.inl fun x mem => absurd mem List.not_mem_nil
      · by_cases here : String.ofList s ∈ roots
        · exact Or.inr ⟨rest, [], s, rfl, here, more, absent⟩
        · left
          intro x mem
          rw [List.dropLast_cons_of_ne_nil more] at mem
          rcases List.mem_cons.mp mem with rfl | mem
          · exact here
          · exact absent x mem
    · exact Or.inr ⟨back, s :: front, t, rfl, found, more, last⟩

theorem afterRoot?_of_none (single : '/' ∉ root.toList) (plain : ∀ s ∈ segs, '/' ∉ s)
    (nonempty : segs ≠ []) (absent : ∀ x ∈ segs.dropLast, String.ofList x ≠ root) :
    afterRoot? (joined segs) root = none := by
  induction segs with
  | nil => contradiction
  | cons s rest ih =>
    have here : '/' ∉ s := plain s List.mem_cons_self
    by_cases more : rest = []
    · rw [more]
      exact afterRoot?_single single here
    · rw [List.dropLast_cons_of_ne_nil more] at absent
      have behind := ih (fun t mem => plain t (List.mem_cons_of_mem _ mem)) more
        (fun x mem => absent x (List.mem_cons_of_mem _ mem))
      rw [afterRoot?_joined single here more, behind, if_neg (absent s List.mem_cons_self)]
      rfl

theorem afterRoot?_of_behind (single : '/' ∉ root.toList) (plain : ∀ s ∈ segs, '/' ∉ s)
    (behind : Behind [root] segs back) : afterRoot? (joined segs) root = some (joined back) := by
  obtain ⟨front, s, rfl, found, more, last⟩ := behind
  simp only [List.mem_singleton] at found last
  -- By induction on what stands in front: a segment more there does not move the last place.
  induction front with
  | nil =>
    have here : '/' ∉ s := plain s List.mem_cons_self
    have later := afterRoot?_of_none single (fun t mem => plain t (List.mem_cons_of_mem _ mem)) more
      last
    rw [List.nil_append, afterRoot?_joined single here more, later, if_pos found]
    rfl
  | cons t front ih =>
    have here : '/' ∉ t := plain t List.mem_cons_self
    have later := ih fun x mem => plain x (List.mem_cons_of_mem _ mem)
    rw [List.cons_append, afterRoot?_joined single here (by simp), later]
    rfl

/-- The shortest of some parts is taken, where no other is as short. -/
theorem foldl_shorter {best : List Char} {parts : List (List Char)} {acc : Option (List Char)}
    (mem : best ∈ acc.toList ++ parts)
    (least : ∀ x ∈ acc.toList ++ parts, x = best ∨ best.length < x.length) :
    parts.foldl shorter acc = some best := by
  induction parts generalizing acc with
  | nil => simpa using mem
  | cons y parts ih =>
    rw [List.foldl_cons]
    cases acc with
    | none => exact ih (by simpa [shorter] using mem) (by simpa [shorter] using least)
    | some x =>
      have first := least x (by simp)
      have second := least y (by simp)
      have rest : ∀ z ∈ parts, z = best ∨ best.length < z.length :=
        fun z hz => least z (by simp [hz])
      simp only [shorter]
      split
      -- The new part takes the place of `x`, which then is not the best.
      · rename_i less
        have other : best ≠ x := by
          rintro rfl
          rcases second with rfl | longer <;> omega
        apply ih
        · simpa [other] using mem
        · simpa [second] using rest
      -- The new part is left out; if it is the best, `x` is the same.
      · rename_i notLess
        have other : best = y → best = x := by
          rintro rfl
          rcases first with rfl | longer
          · rfl
          · exact absurd longer notLess
        apply ih
        · have here : best = x ∨ best = y ∨ best ∈ parts := by simpa using mem
          rcases here with here | here | here
          · simp [here]
          · simp [other here]
          · simp [here]
        · simpa [first] using rest

/-- Behind one root alone stands what stands behind the last of all roots, or more. -/
theorem Behind.joined_le {back' : List (List Char)} (behind : Behind roots segs back)
    (listed : root ∈ roots) (other : Behind [root] segs back') :
    joined back' = joined back ∨ (joined back).length < (joined back').length := by
  obtain ⟨front, s, rfl, -, more, last⟩ := behind
  obtain ⟨front', t, same, found, more', -⟩ := other
  rw [List.mem_singleton] at found
  rcases List.append_eq_append_iff.mp same with ⟨gap, -, cut⟩ | ⟨gap, -, cut⟩
  · cases gap with
    | nil =>
      left
      rw [(List.cons.inj cut).2]
    | cons x gap =>
      -- The root would stand behind the last one.
      obtain ⟨-, rfl⟩ : s = x ∧ back = gap ++ t :: back' := by simpa using cut
      have inside : t ∈ (gap ++ t :: back').dropLast := by simp [dropLast_append_cons more']
      exact absurd (found ▸ listed) (last t inside)
  · cases gap with
    | nil =>
      left
      rw [(List.cons.inj cut).2]
    | cons x gap =>
      obtain ⟨-, rfl⟩ : t = x ∧ back' = gap ++ s :: back := by simpa using cut
      exact Or.inr (length_joined_lt more)

end

section

variable {a : Aggregation} {segs back : List (List Char)}

theorem afterRoots_of_none (usable : a.Usable) (plain : ∀ s ∈ segs, '/' ∉ s) (nonempty : segs ≠ [])
    (absent : ∀ x ∈ segs.dropLast, String.ofList x ∉ a.sourceRoots) :
    a.afterRoots (joined segs) = joined segs := by
  have nowhere : a.sourceRoots.filterMap (afterRoot? (joined segs)) = [] := by
    refine List.filterMap_eq_nil_iff.mpr fun root listed => ?_
    apply afterRoot?_of_none (usable.single root listed) plain nonempty
    rintro x mem rfl
    exact absent x mem listed
  rw [afterRoots, nowhere]
  rfl

theorem afterRoots_of_behind (usable : a.Usable) (plain : ∀ s ∈ segs, '/' ∉ s)
    (behind : Behind a.sourceRoots segs back) : a.afterRoots (joined segs) = joined back := by
  have ⟨front, s, split, found, more, last⟩ := behind
  have alone : Behind [String.ofList s] segs back := by
    refine ⟨front, s, split, List.mem_singleton_self _, more, fun x mem again => last x mem ?_⟩
    rwa [List.mem_singleton.mp again]
  have own := afterRoot?_of_behind (usable.single _ found) plain alone
  have shortest : (a.sourceRoots.filterMap (afterRoot? (joined segs))).foldl shorter none =
      some (joined back) := by
    apply foldl_shorter
    · exact List.mem_filterMap.mpr ⟨_, found, own⟩
    · intro x mem
      obtain ⟨root, listed, hit⟩ := List.mem_filterMap.mp mem
      have single := usable.single root listed
      rcases none_or_behind [root] segs with absent | ⟨back', other⟩
      · have nonempty : segs ≠ [] := by simp [split]
        rw [afterRoot?_of_none single plain nonempty (by simpa using absent)] at hit
        cases hit
      · rw [afterRoot?_of_behind single plain other] at hit
        obtain rfl := Option.some.inj hit
        exact behind.joined_le listed other
  rw [afterRoots, shortest]
  rfl

theorem directories_joined (plain : ∀ s ∈ segs, '/' ∉ s) (nonempty : segs ≠ []) :
    directories (joined segs) = segs.dropLast.filter fun s => s ≠ [] := by
  obtain ⟨init, last, rfl⟩ := List.eq_nil_or_concat' segs |>.resolve_left nonempty
  have file : '/' ∉ last := plain last (by simp)
  rw [List.dropLast_concat]
  by_cases more : init = []
  · have whole : Text.splitLast? '/' last = none := Text.splitLast?_eq_none_iff.mpr file
    simp [more, joined, directories, whole]
  · have parts : (joined init).splitOn '/' = init :=
      List.splitOn_intercalate '/' (fun s mem => plain s (by simp [mem])) more
    rw [directories, joined_concat more, Text.splitLast?_append file]
    dsimp only
    rw [parts]
    apply List.filter_congr
    intro s _
    cases s <;> rfl

/-- A root hides all that stands before it. -/
theorem below_append {front : List (List Char)} {root : List Char} (found : a.isRoot root)
    (more : back ≠ []) : a.below (front ++ root :: back) = a.below back := by
  have hidden : ∀ dirs : List (List Char),
      (front ++ root :: dirs).rtakeWhile (fun s => !a.isRoot s) =
        dirs.rtakeWhile fun s => !a.isRoot s := by
    intro dirs
    induction dirs using List.reverseRecOn with
    | nil => simp [found]
    | append_singleton dirs d ih =>
      rw [← List.cons_append, ← List.append_assoc, List.rtakeWhile_concat, List.rtakeWhile_concat, ih]
  rw [below, dropLast_append_cons more, hidden, below]

theorem below_of_none (absent : ∀ x ∈ segs.dropLast, String.ofList x ∉ a.sourceRoots) :
    a.below segs = segs.dropLast.filter fun s => s ≠ [] := by
  have all : segs.dropLast.rtakeWhile (fun s => !a.isRoot s) = segs.dropLast := by
    rw [List.rtakeWhile_eq_self_iff]
    intro x mem
    simpa [isRoot] using absent x mem
  rw [below, all]

/-- The directories that are found in the text of a path are those behind its last source root. -/
theorem directories_afterRoots (usable : a.Usable) (plain : ∀ s ∈ segs, '/' ∉ s) (nonempty : segs ≠ []) :
    directories (a.afterRoots (joined segs)) = a.below segs := by
  rcases none_or_behind a.sourceRoots segs with absent | ⟨back, behind⟩
  · rw [afterRoots_of_none usable plain nonempty absent, directories_joined plain nonempty,
      below_of_none absent]
  · rw [afterRoots_of_behind usable plain behind]
    obtain ⟨front, s, rfl, found, more, last⟩ := behind
    have rest : ∀ t ∈ back, '/' ∉ t := fun t mem => plain t (by simp [mem])
    rw [directories_joined rest more, below_append (by simpa [isRoot] using found) more,
      below_of_none last]

theorem mem_below {s : List Char} (mem : s ∈ a.below segs) : s ∈ segs ∧ s ≠ [] := by
  obtain ⟨behind, some⟩ := List.mem_filter.mp mem
  have inside : s ∈ segs.dropLast := (List.rtakeWhile_suffix _ _).subset behind
  exact ⟨List.dropLast_subset _ inside, by simpa using some⟩

theorem Usable.depth_pos (usable : a.Usable) {depth : UInt64} (given : a.packageDepth = some depth) :
    0 < depth.toNat := by
  have deep : depth ≠ 0 := fun zero => usable.deep (zero ▸ given)
  exact Nat.pos_of_ne_zero fun zero => deep (UInt64.toNat_inj.mp zero)

theorem kept_eq_nil_iff (usable : a.Usable) (dirs : List (List Char)) :
    a.kept dirs = [] ↔ dirs = [] := by
  unfold kept
  split
  · rename_i depth given
    have deep := usable.depth_pos given
    rw [List.take_eq_nil_iff]
    constructor
    · rintro (zero | empty)
      · omega
      · exact empty
    · exact Or.inr
  · rfl

theorem length_kept {depth : UInt64} (given : a.packageDepth = some depth)
    (dirs : List (List Char)) : (a.kept dirs).length ≤ depth.toNat := by
  rw [kept, given]
  exact List.length_take_le _ _

theorem kept_sublist (a : Aggregation) (dirs : List (List Char)) : (a.kept dirs).Sublist dirs := by
  unfold kept
  split
  · exact List.take_sublist _ _
  · exact List.Sublist.refl _

theorem packageKey_eq_segmentKey (usable : a.Usable) (file : String) :
    a.packageKey file = a.segmentKey file := by
  have path : joined (segments file) = file.toList.map fun c => if c = '\\' then '/' else c :=
    List.intercalate_splitOn '/'
  have plain : ∀ s ∈ segments file, '/' ∉ s := fun s mem => slash_not_mem_splitOn mem
  have found := directories_afterRoots usable plain (List.splitOn_ne_nil _ _)
  rw [path] at found
  unfold packageKey segmentKey
  dsimp only
  rw [found]
  by_cases empty : a.below (segments file) = []
  · rw [if_pos (by simp [empty]), if_pos ((kept_eq_nil_iff usable _).mpr empty)]
  · rw [if_neg (by simpa using empty), if_neg (mt (kept_eq_nil_iff usable _).mp empty)]
    rfl

/-- The segments of a key are the directories that were kept. -/
theorem splitOn_segmentKey (a : Aggregation) (file : String) :
    (a.segmentKey file).toList.splitOn '/' =
      if a.kept (a.below (segments file)) = [] then [rootPackage.toList]
      else a.kept (a.below (segments file)) := by
  unfold segmentKey
  dsimp only
  split
  · decide
  · rename_i some
    have plain : ∀ s ∈ a.kept (a.below (segments file)), '/' ∉ s := by
      intro s mem
      exact slash_not_mem_splitOn (mem_below ((kept_sublist a _).subset mem)).1
    have letters : ("/".intercalate ((a.kept (a.below (segments file))).map String.ofList)).toList =
        ['/'].intercalate (a.kept (a.below (segments file))) := by
      rw [String.toList_intercalate, List.map_map]
      simp [Function.comp_def]
    rw [letters, List.splitOn_intercalate '/' plain some]

end

/-- The package of a file is found by its segments: what follows the last source root among them, the
last segment and empty ones left out, as many as configured, or `(root)` where nothing remains. So a key
is not empty, has no empty segment and no more of them than configured, and does not depend on what
stands before a source root, nor on which one it is. -/
theorem package_key_by_segments {a : Aggregation} (usable : a.Usable) (file : String) :
    a.packageKey file = a.segmentKey file ∧
    a.packageKey file ≠ "" ∧
    (∀ s ∈ (a.packageKey file).toList.splitOn '/', s ≠ []) ∧
    (∀ depth, a.packageDepth = some depth →
      ((a.packageKey file).toList.splitOn '/').length ≤ depth.toNat) ∧
    ∀ file' front front' root root' back, back ≠ [] → a.isRoot root → a.isRoot root' →
      segments file = front ++ root :: back → segments file' = front' ++ root' :: back →
      a.packageKey file' = a.packageKey file := by
  have parts := splitOn_segmentKey a file
  rw [← packageKey_eq_segmentKey usable] at parts
  have nonempty : ∀ s ∈ (a.packageKey file).toList.splitOn '/', s ≠ [] := by
    rw [parts]
    split
    · decide
    · intro s mem
      exact (mem_below ((kept_sublist a _).subset mem)).2
  refine ⟨packageKey_eq_segmentKey usable file, ?_, nonempty, ?_, ?_⟩
  · intro empty
    rw [empty] at nonempty
    exact nonempty [] (by decide) rfl
  · intro depth given
    rw [parts]
    split
    · exact usable.depth_pos given
    · exact length_kept given _
  · intro file' front front' root root' back more found found' split split'
    rw [packageKey_eq_segmentKey usable, packageKey_eq_segmentKey usable, segmentKey, segmentKey, split,
      split', below_append found more, below_append found' more]

theorem package_key_by_segments_twoRoots :
    let a : Aggregation := ⟨some 2, ["src", "lib"]⟩
    a.Usable ∧ a.packageKey "C:\\lib\\src\\lib/cli//args/parse/x.ts" = "cli/args" ∧
    a.packageKey "src/cli//args/parse/x.ts" = "cli/args" := by
  intro a
  have usable : a.Usable := usable_of_validate (by decide)
  obtain ⟨-, -, -, -, alike⟩ :=
    package_key_by_segments usable "C:\\lib\\src\\lib/cli//args/parse/x.ts"
  have same := alike "src/cli//args/parse/x.ts" ["C:".toList, "lib".toList, "src".toList] []
    "lib".toList "src".toList
    ["cli".toList, [], "args".toList, "parse".toList, "x.ts".toList] (by decide) (by decide) (by decide)
    (by decide) (by decide)
  have key : a.packageKey "C:\\lib\\src\\lib/cli//args/parse/x.ts" = "cli/args" := by decide
  exact ⟨usable, key, same.trans key⟩

end ArchAtlas.Config.Aggregation
