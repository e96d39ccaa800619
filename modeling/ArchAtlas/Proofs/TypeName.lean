import ArchAtlas.TypeName
import Mathlib.Data.List.Basic
import Mathlib.Data.List.TakeWhile

/-!
Which type expressions are read right. A type expression is a named type in layers of notation:
pointers, arrays and slices, maps, channels, parentheses. Reading takes off a channel, pointers, an
array, a map and pointers again, in this order, and looks at the text that remains.

* `spell` is the source text of layers around a named type, `peel` what reading does to layers;
* `element_spell`: to take notation off the text is to take layers off;
* `Peelable` says which layers come off whole, and `peel_eq_nil_iff` that these are the ones;
* `readsRight_iff_peelable`: there name and package are read right; elsewhere the package is lost, or
  the name where there is no package.
-/

namespace ArchAtlas.TypeName

/-! ## Type expressions -/

structure Identifier where
  text : String
  wellFormed : isIdentifier text.toList = true

/-- The size of an array, in digits; a slice has none of them. -/
structure Size where
  text : String
  wellFormed : text.toList.all Char.isDigit = true

inductive Direction where
  | both
  | receive
  | send

def Direction.mark : Direction → List Char
  | both => "chan".toList
  | receive => "<-chan".toList
  | send => "chan<-".toList

/-- What a type expression puts around another one. Parentheses stand where an element type could be
misread, as in `chan (<-chan T)`. -/
inductive Layer where
  | pointer
  | array (size : Size)
  | map (key : Identifier)
  | channel (way : Direction)
  | parens

namespace Layer

def wrap : Layer → List Char → List Char
  | pointer, s => '*' :: s
  | array size, s => '[' :: (size.text.toList ++ ']' :: s)
  | map key, s => "map[".toList ++ (key.text.toList ++ ']' :: s)
  | channel way, s => way.mark ++ ' ' :: s
  | parens, s => '(' :: (s ++ [')'])

def slice : Layer := array ⟨"", rfl⟩

inductive Kind where
  | pointer
  | array
  | map
  | channel
  | parens
  deriving DecidableEq

def kind : Layer → Kind
  | pointer => .pointer
  | array _ => .array
  | map _ => .map
  | channel _ => .channel
  | parens => .parens

end Layer

/-- A named type, with the package that it is taken from. -/
structure Named where
  package? : Option Identifier
  name : Identifier

def Named.spell (base : Named) : List Char :=
  match base.package? with
  | some package => package.text.toList ++ '.' :: base.name.text.toList
  | none => base.name.text.toList

/-- The source text of layers, the outermost first, around a named type. -/
def spell (layers : List Layer) (base : Named) : List Char :=
  layers.foldr Layer.wrap base.spell

@[simp]
theorem spell_nil (base : Named) : spell [] base = base.spell := rfl

@[simp]
theorem spell_cons (layer : Layer) (layers : List Layer) (base : Named) :
    spell (layer :: layers) base = layer.wrap (spell layers base) := rfl

/-! ## The characters of names -/

theorem isIdentifierRest_of_start {c : Char} (h : isIdentifierStart c = true) :
    isIdentifierRest c = true := by
  simp only [isIdentifierStart, isIdentifierRest, Char.isAlphanum, Bool.or_eq_true] at h ⊢
  tauto

theorem rest_of_mem {s : List Char} (h : isIdentifier s = true) {c : Char} (mem : c ∈ s) :
    isIdentifierRest c = true := by
  cases s with
  | nil => cases mem
  | cons first rest =>
    simp only [isIdentifier, Bool.and_eq_true, List.all_eq_true] at h
    rcases List.mem_cons.mp mem with rfl | mem
    · exact isIdentifierRest_of_start h.1
    · exact h.2 c mem

theorem isBlank_of_rest {c : Char} (h : isIdentifierRest c = true) : Text.isBlank c = false := by
  simp only [isIdentifierRest, Char.isAlphanum, Bool.or_eq_true, decide_eq_true_eq] at h
  rcases h with (letter | digit) | rfl
  · exact Text.isBlank_of_isAlpha letter
  · exact Text.isBlank_of_isDigit digit
  · decide

theorem Identifier.not_mem (i : Identifier) {c : Char} (other : isIdentifierRest c = false) :
    c ∉ i.text.toList := by
  intro mem
  rw [rest_of_mem i.wellFormed mem] at other
  cases other

theorem Identifier.ne_nil (i : Identifier) : i.text.toList ≠ [] := by
  intro empty
  have wellFormed := i.wellFormed
  rw [empty] at wellFormed
  cases wellFormed

theorem Identifier.head (i : Identifier) :
    ∃ c, i.text.toList.head? = some c ∧ isIdentifierStart c = true := by
  have wellFormed := i.wellFormed
  cases letters : i.text.toList with
  | nil => exact absurd letters i.ne_nil
  | cons c rest =>
    rw [letters, isIdentifier, Bool.and_eq_true] at wellFormed
    exact ⟨c, rfl, wellFormed.1⟩

theorem Size.not_mem (size : Size) {c : Char} (other : c.isDigit = false) :
    c ∉ size.text.toList := by
  intro mem
  rw [List.all_eq_true.mp size.wellFormed c mem] at other
  cases other

namespace Named

variable (base : Named)

theorem mem_spell {c : Char} (mem : c ∈ base.spell) : isIdentifierRest c = true ∨ c = '.' := by
  unfold spell at mem
  split at mem
  · rename_i package _
    rcases List.mem_append.mp mem with mem | mem
    · exact Or.inl (rest_of_mem package.wellFormed mem)
    · rcases List.mem_cons.mp mem with rfl | mem
      · exact Or.inr rfl
      · exact Or.inl (rest_of_mem base.name.wellFormed mem)
  · exact Or.inl (rest_of_mem base.name.wellFormed mem)

theorem isBlank_of_mem_spell {c : Char} (mem : c ∈ base.spell) : Text.isBlank c = false := by
  rcases base.mem_spell mem with rest | rfl
  · exact isBlank_of_rest rest
  · decide

/-- The text of a named type starts with a letter or an underscore. -/
theorem spell_eq_cons : ∃ c rest, base.spell = c :: rest ∧ isIdentifierStart c = true := by
  have starts : ∃ c, base.spell.head? = some c ∧ isIdentifierStart c = true := by
    unfold spell
    split
    · rename_i package _
      rw [List.head?_append_of_ne_nil _ package.ne_nil]
      exact package.head
    · exact base.name.head
  obtain ⟨c, first, start⟩ := starts
  obtain ⟨rest, letters⟩ := List.head?_eq_some_iff.mp first
  exact ⟨c, rest, letters, start⟩

end Named

/-- Neither end of a source text is blank. -/
theorem spell_ends (layers : List Layer) (base : Named) :
    (∃ c, (spell layers base).head? = some c ∧ Text.isBlank c = false) ∧
    ∃ c, (spell layers base).getLast? = some c ∧ Text.isBlank c = false := by
  induction layers with
  | nil =>
    obtain ⟨c, rest, letters, -⟩ := base.spell_eq_cons
    have nonempty : base.spell ≠ [] := by simp [letters]
    exact ⟨⟨_, List.head?_eq_some_head nonempty, base.isBlank_of_mem_spell (List.head_mem nonempty)⟩,
      ⟨_, List.getLast?_eq_some_getLast nonempty,
        base.isBlank_of_mem_spell (List.getLast_mem nonempty)⟩⟩
  | cons layer layers ih =>
    obtain ⟨-, last, ends, solid⟩ := ih
    have behind (front : List Char) : (front ++ spell layers base).getLast? = some last := by
      rw [List.getLast?_append, ends, Option.some_or]
    cases layer with
    | pointer => exact ⟨⟨'*', rfl, by decide⟩, last, behind ['*'], solid⟩
    | array size =>
      refine ⟨⟨'[', rfl, by decide⟩, last, ?_, solid⟩
      simpa only [spell_cons, Layer.wrap, List.cons_append, List.append_assoc, List.nil_append] using
        behind ('[' :: (size.text.toList ++ [']']))
    | map key =>
      refine ⟨⟨'m', rfl, by decide⟩, last, ?_, solid⟩
      simpa only [spell_cons, Layer.wrap, List.append_assoc, List.cons_append, List.nil_append] using
        behind ("map[".toList ++ (key.text.toList ++ [']']))
    | channel way =>
      refine ⟨?_, last, ?_, solid⟩
      · cases way
        · exact ⟨'c', rfl, by decide⟩
        · exact ⟨'<', rfl, by decide⟩
        · exact ⟨'c', rfl, by decide⟩
      · simpa only [spell_cons, Layer.wrap, List.append_assoc, List.cons_append, List.nil_append] using
          behind (way.mark ++ [' '])
    | parens =>
      refine ⟨⟨'(', rfl, by decide⟩, ')', ?_, by decide⟩
      change ('(' :: spell layers base ++ [')']).getLast? = some ')'
      exact List.getLast?_concat

theorem trimStart_spell (layers : List Layer) (base : Named) :
    Text.trimStart (spell layers base) = spell layers base := by
  obtain ⟨⟨c, first, solid⟩, -⟩ := spell_ends layers base
  exact Text.trimStart_eq_self first solid

theorem trim_spell (layers : List Layer) (base : Named) :
    Text.trim (spell layers base) = spell layers base := by
  obtain ⟨-, c, last, solid⟩ := spell_ends layers base
  rw [Text.trim, trimStart_spell, Text.trimEnd_eq_self last solid]

/-! ## Taking layers off -/

/-- Takes the first layer off if it is of a kind. -/
def oneOff (k : Layer.Kind) : List Layer → List Layer
  | [] => []
  | layer :: rest => if layer.kind = k then rest else layer :: rest

/-- Takes the first layers off that are of a kind. -/
def allOff (k : Layer.Kind) (layers : List Layer) : List Layer :=
  layers.dropWhile fun layer => layer.kind = k

/-- The layers that reading leaves. -/
def peel (layers : List Layer) : List Layer :=
  allOff .pointer (oneOff .map (oneOff .array (allOff .pointer (oneOff .channel layers))))

section

variable (layers : List Layer) (base : Named)

/-- Without blanks there is no channel mark. -/
theorem afterChannel?_eq_none {mark s : List Char} (solid : ∀ c ∈ s, Text.isBlank c = false) :
    afterChannel? mark s = none := by
  unfold afterChannel?
  split
  · rename_i c rest found
    have split : s = mark ++ c :: rest := Text.after?_eq_some_iff.mp found
    have mem : c ∈ s := by
      rw [split]
      exact List.mem_append_right _ List.mem_cons_self
    rw [if_neg (by simp [solid c mem])]
  · rfl

/-- A channel mark comes off with the blanks behind it. -/
theorem dropChannel_mark (way : Direction) (s : List Char) :
    dropChannel (way.mark ++ ' ' :: s) = Text.trimStart s := by
  cases way <;> rfl

theorem dropChannel_spell : dropChannel (spell layers base) = spell (oneOff .channel layers) base := by
  match layers with
  | [] =>
    have none : channelMarks.findSome? (afterChannel? · base.spell) = none := by
      rw [List.findSome?_eq_none_iff]
      exact fun mark _ => afterChannel?_eq_none fun c => base.isBlank_of_mem_spell
    simp [dropChannel, oneOff, none]
  | .channel way :: layers =>
    exact (dropChannel_mark way (spell layers base)).trans (trimStart_spell layers base)
  | .pointer :: _ => rfl
  | .array _ :: _ => rfl
  | .map _ :: _ => rfl
  | .parens :: _ => rfl

theorem dropPointers_spell :
    dropPointers (spell layers base) = spell (allOff .pointer layers) base := by
  induction layers with
  | nil =>
    obtain ⟨c, rest, letters, start⟩ := base.spell_eq_cons
    have other : c ≠ '*' := by
      rintro rfl
      cases start
    simp [dropPointers, allOff, letters, other]
  | cons layer layers ih =>
    cases layer with
    | pointer => exact ih
    | array _ => rfl
    | map _ => rfl
    | channel way => cases way <;> rfl
    | parens => rfl

theorem dropArray_spell : dropArray (spell layers base) = spell (oneOff .array layers) base := by
  match layers with
  | [] =>
    obtain ⟨c, rest, letters, start⟩ := base.spell_eq_cons
    have other : c ≠ '[' := by
      rintro rfl
      cases start
    simp [dropArray, oneOff, letters, other]
  | .array size :: layers =>
    have split := Text.splitFirst?_append (v := spell layers base)
      (size.not_mem (show Char.isDigit ']' = false by decide))
    simp only [spell_cons, dropArray, Layer.wrap, split, size.wellFormed, if_true]
    rfl
  | .pointer :: _ => rfl
  | .map _ :: _ => rfl
  | .channel way :: _ => cases way <;> rfl
  | .parens :: _ => rfl

theorem dropMap_spell : dropMap (spell layers base) = spell (oneOff .map layers) base := by
  match layers with
  | [] =>
    have other : Text.after? "map[".toList base.spell = none := by
      rw [Option.eq_none_iff_forall_ne_some]
      intro rest found
      have mem : '[' ∈ base.spell := by
        rw [Text.after?_eq_some_iff.mp found]
        exact List.mem_append_left _ (by decide)
      rcases base.mem_spell mem with rest | point
      · revert rest
        decide
      · revert point
        decide
    simp only [spell_nil, dropMap, oneOff, other]
  | .map key :: layers =>
    have after : Text.after? "map[".toList (spell (.map key :: layers) base) =
        some (key.text.toList ++ ']' :: spell layers base) :=
      Text.after?_eq_some_iff.mpr rfl
    have split := Text.splitFirst?_append (v := spell layers base)
      (key.not_mem (show isIdentifierRest ']' = false by decide))
    simp only [dropMap, after, split, trim_spell]
    rfl
  | .pointer :: _ => rfl
  | .array _ :: _ => rfl
  | .channel way :: _ => cases way <;> rfl
  | .parens :: _ => rfl

/-- To take notation off the text is to take layers off. -/
theorem element_spell : element (spell layers base) = spell (peel layers) base := by
  rw [element, trim_spell, dropChannel_spell, dropPointers_spell, dropArray_spell, dropMap_spell,
    dropPointers_spell]
  rfl

end

def Only (k : Layer.Kind) (layers : List Layer) : Prop :=
  ∀ layer ∈ layers, layer.kind = k

def AtMostOne (k : Layer.Kind) (layers : List Layer) : Prop :=
  layers.length ≤ 1 ∧ Only k layers

/-- The layers that come off whole, from outside in: at most one channel, pointers, at most one array or
slice, at most one map, and pointers again. -/
def Peelable (layers : List Layer) : Prop :=
  ∃ channel outer array map inner, layers = channel ++ (outer ++ (array ++ (map ++ inner))) ∧
    AtMostOne .channel channel ∧ Only .pointer outer ∧ AtMostOne .array array ∧
    AtMostOne .map map ∧ Only .pointer inner

section

variable {layers front rest : List Layer} {k : Layer.Kind}

theorem oneOff_split (k : Layer.Kind) (layers : List Layer) :
    ∃ front, layers = front ++ oneOff k layers ∧ AtMostOne k front := by
  cases layers with
  | nil => exact ⟨[], rfl, by simp [AtMostOne, Only]⟩
  | cons layer rest =>
    by_cases same : layer.kind = k
    · exact ⟨[layer], by simp [oneOff, same], by simp [AtMostOne, Only, same]⟩
    · exact ⟨[], by simp [oneOff, same], by simp [AtMostOne, Only]⟩

theorem allOff_split (k : Layer.Kind) (layers : List Layer) :
    ∃ front, layers = front ++ allOff k layers ∧ Only k front := by
  refine ⟨layers.takeWhile fun layer => layer.kind = k, ?_, fun layer mem => ?_⟩
  · exact List.takeWhile_append_dropWhile.symm
  · have same := List.mem_takeWhile_imp mem
    exact of_decide_eq_true same

theorem oneOff_append (one : AtMostOne k front) (other : ∀ layer ∈ rest, layer.kind ≠ k) :
    oneOff k (front ++ rest) = rest := by
  obtain ⟨short, same⟩ := one
  match front with
  | [] =>
    cases rest with
    | nil => rfl
    | cons layer rest => exact if_neg (other layer List.mem_cons_self)
  | [layer] => exact if_pos (same layer List.mem_cons_self)

theorem allOff_append (only : Only k front) : allOff k (front ++ rest) = allOff k rest :=
  List.dropWhile_append_of_pos fun layer mem => decide_eq_true (only layer mem)

theorem allOff_stops (nonempty : front ≠ []) (other : ∀ layer ∈ front, layer.kind ≠ k) :
    allOff k (front ++ rest) = front ++ rest := by
  obtain ⟨layer, front, rfl⟩ := List.exists_cons_of_ne_nil nonempty
  exact List.dropWhile_cons_of_neg (by simp [other layer List.mem_cons_self])

theorem allOff_eq_nil (only : Only k layers) : allOff k layers = [] := by
  rw [← List.append_nil layers, allOff_append only]
  rfl

theorem Only.kind_ne {other : Layer.Kind} (only : Only k layers) (ne : k ≠ other) :
    ∀ layer ∈ layers, layer.kind ≠ other := by
  intro layer mem same
  exact ne ((only layer mem).symm.trans same)

/-- What is taken off a list of layers step by step, put together again, is the list. -/
theorem peelable_of_peel (whole : peel layers = []) : Peelable layers := by
  obtain ⟨channel, first, hc⟩ := oneOff_split .channel layers
  obtain ⟨outer, second, ho⟩ := allOff_split .pointer (oneOff .channel layers)
  obtain ⟨array, third, ha⟩ := oneOff_split .array (allOff .pointer (oneOff .channel layers))
  obtain ⟨map, fourth, hm⟩ :=
    oneOff_split .map (oneOff .array (allOff .pointer (oneOff .channel layers)))
  obtain ⟨inner, fifth, hi⟩ :=
    allOff_split .pointer (oneOff .map (oneOff .array (allOff .pointer (oneOff .channel layers))))
  rw [peel] at whole
  rw [whole, List.append_nil] at fifth
  refine ⟨channel, outer, array, map, inner, ?_, hc, ho, ha, hm, hi⟩
  rw [← fifth, ← fourth, ← third, ← second, ← first]

/-- Each step takes its own part off and no more, as the next part is of another kind. -/
theorem peel_eq_nil (peelable : Peelable layers) : peel layers = [] := by
  obtain ⟨channel, outer, array, map, inner, rfl, hc, ho, ha, hm, hi⟩ := peelable
  have mapless := hi.kind_ne (show Layer.Kind.pointer ≠ .map by decide)
  have arrayless := List.forall_mem_append.mpr
    ⟨hm.2.kind_ne (show Layer.Kind.map ≠ .array by decide), hi.kind_ne (by decide)⟩
  have channelless : ∀ layer ∈ outer ++ (array ++ (map ++ inner)), layer.kind ≠ .channel := by
    simp only [List.forall_mem_append]
    exact ⟨ho.kind_ne (by decide), ha.2.kind_ne (by decide), hm.2.kind_ne (by decide),
      hi.kind_ne (by decide)⟩
  rw [peel, oneOff_append hc channelless, allOff_append ho]
  -- Where neither an array nor a map comes in between, all pointers come off at once.
  by_cases between : array ++ map = []
  · obtain ⟨rfl, rfl⟩ := List.append_eq_nil_iff.mp between
    have pointers : allOff .pointer ([] ++ ([] ++ inner)) = [] := allOff_eq_nil hi
    rw [pointers]
    rfl
  · have pointerless := List.forall_mem_append.mpr
      ⟨ha.2.kind_ne (show Layer.Kind.array ≠ .pointer by decide), hm.2.kind_ne (by decide)⟩
    have stops : allOff .pointer (array ++ (map ++ inner)) = array ++ (map ++ inner) := by
      rw [← List.append_assoc, allOff_stops between pointerless]
    rw [stops, oneOff_append ha arrayless, oneOff_append hm mapless, allOff_eq_nil hi]

/-- The layers that come off whole are those in the order in which they are taken. -/
theorem peel_eq_nil_iff : peel layers = [] ↔ Peelable layers :=
  ⟨peelable_of_peel, peel_eq_nil⟩

instance (layers : List Layer) : Decidable (Peelable layers) :=
  decidable_of_iff ((peel layers).isEmpty = true) (by rw [List.isEmpty_iff, peel_eq_nil_iff])

end

/-! ## What is read -/

/-- A type expression: layers of notation, the outermost first, around a named type. -/
structure TypeExpr where
  layers : List Layer
  base : Named

def TypeExpr.text (t : TypeExpr) : String :=
  String.ofList (spell t.layers t.base)

/-- The name and the package of the named type are what is read from the text. -/
def TypeExpr.ReadsRight (t : TypeExpr) : Prop :=
  bare t.text = t.base.name.text ∧ qualifier? t.text = t.base.package?.map Identifier.text

instance (t : TypeExpr) : Decidable t.ReadsRight :=
  inferInstanceAs (Decidable (_ ∧ _))

section

variable (t : TypeExpr)

theorem element_text : element t.text.toList = spell (peel t.layers) t.base := by
  rw [TypeExpr.text, String.toList_ofList, element_spell]

theorem Named.afterLast_spell (base : Named) :
    Text.afterLast '.' base.spell = base.name.text.toList := by
  have last : '.' ∉ base.name.text.toList := base.name.not_mem (by decide)
  cases package : base.package? with
  | some q => simp only [Named.spell, package, Text.afterLast, Text.splitLast?_append last]
  | none => simp only [Named.spell, package, Text.afterLast, Text.splitLast?_eq_none_iff.mpr last]

/-- A named type in no layers is read as it is. -/
theorem readsRight_of_peel_nil {t : TypeExpr} (whole : peel t.layers = []) : t.ReadsRight := by
  constructor
  · rw [bare, element_text, whole, spell_nil, Named.afterLast_spell, String.ofList_toList]
  · rw [qualifier?, element_text, whole, spell_nil]
    cases package : t.base.package? with
    | some q =>
      have first : '.' ∉ q.text.toList := q.not_mem (by decide)
      simp only [Named.spell, package, Text.splitFirst?_append first, q.wellFormed, if_true,
        String.ofList_toList, Option.map_some]
    | none =>
      have absent : '.' ∉ t.base.name.text.toList := t.base.name.not_mem (by decide)
      simp only [Named.spell, package, Text.splitFirst?_eq_none_iff.mpr absent, Option.map_none]

/-- In the notation of a layer there is a character of no identifier, before any point. -/
theorem exists_mark (layer : Layer) (layers : List Layer) (base : Named) :
    ∃ front c back, spell (layer :: layers) base = front ++ c :: back ∧ '.' ∉ front ∧ c ≠ '.' ∧
      isIdentifierRest c = false := by
  cases layer with
  | pointer => exact ⟨[], '*', _, rfl, by decide, by decide, by decide⟩
  | array size => exact ⟨[], '[', _, rfl, by decide, by decide, by decide⟩
  | map key => exact ⟨"map".toList, '[', _, rfl, by decide, by decide, by decide⟩
  | channel way =>
    cases way with
    | both => exact ⟨"chan".toList, ' ', _, rfl, by decide, by decide, by decide⟩
    | receive => exact ⟨[], '<', _, rfl, by decide, by decide, by decide⟩
    | send => exact ⟨"chan".toList, '<', _, rfl, by decide, by decide, by decide⟩
  | parens => exact ⟨[], '(', _, rfl, by decide, by decide, by decide⟩

/-- What stands before a point holds all that comes before it. -/
theorem mem_of_split {front back q r : List Char} {c : Char} (point : '.' ∉ front) (other : c ≠ '.')
    (same : front ++ c :: back = q ++ '.' :: r) : c ∈ q := by
  rcases List.append_eq_append_iff.mp same with ⟨gap, rfl, rest⟩ | ⟨gap, rfl, rest⟩
  · cases gap with
    | nil => exact absurd (List.cons.inj rest).1 other
    | cons d gap =>
      obtain ⟨rfl, -⟩ := List.cons.inj rest
      exact List.mem_append_right _ List.mem_cons_self
  · cases gap with
    | nil => exact absurd (List.cons.inj rest).1.symm other
    | cons d gap =>
      obtain ⟨rfl, -⟩ := List.cons.inj rest
      exact absurd (List.mem_append_right _ List.mem_cons_self) point

/-- Notation that remains hides the package. -/
theorem qualifier?_of_peel_cons {layer : Layer} {layers : List Layer}
    (left : peel t.layers = layer :: layers) : qualifier? t.text = none := by
  obtain ⟨front, c, back, split, point, other, foreign⟩ := exists_mark layer layers t.base
  rw [qualifier?, element_text, left, split]
  split
  · rename_i q r found
    obtain ⟨same, -⟩ := Text.eq_of_splitFirst? found
    have mem : c ∈ q := mem_of_split point other same
    rw [if_neg]
    intro identifier
    rw [rest_of_mem identifier mem] at foreign
    cases foreign
  · rfl

theorem point_not_mem_spell {base : Named} (unqualified : base.package? = none)
    (layers : List Layer) : '.' ∉ spell layers base := by
  induction layers with
  | nil =>
    rw [spell_nil, Named.spell, unqualified]
    exact base.name.not_mem (by decide)
  | cons layer layers ih =>
    cases layer with
    | pointer => exact List.not_mem_cons_of_ne_of_not_mem (by decide) ih
    | array size =>
      have digits : '.' ∉ size.text.toList := size.not_mem (by decide)
      have closed := List.not_mem_cons_of_ne_of_not_mem (show '.' ≠ ']' by decide) ih
      exact List.not_mem_cons_of_ne_of_not_mem (by decide) (List.not_mem_append digits closed)
    | map key =>
      have letters : '.' ∉ key.text.toList := key.not_mem (by decide)
      have closed := List.not_mem_cons_of_ne_of_not_mem (show '.' ≠ ']' by decide) ih
      exact List.not_mem_append (by decide) (List.not_mem_append letters closed)
    | channel way =>
      have mark : '.' ∉ way.mark := by cases way <;> decide
      exact List.not_mem_append mark (List.not_mem_cons_of_ne_of_not_mem (by decide) ih)
    | parens =>
      exact List.not_mem_cons_of_ne_of_not_mem (by decide) (List.not_mem_append ih (by decide))

/-- Notation that remains is read as part of the name where there is no package. -/
theorem bare_of_peel_cons {layer : Layer} {layers : List Layer}
    (left : peel t.layers = layer :: layers) (unqualified : t.base.package? = none) :
    bare t.text ≠ t.base.name.text := by
  obtain ⟨front, c, back, split, -, -, foreign⟩ := exists_mark layer layers t.base
  have whole : Text.afterLast '.' (spell (peel t.layers) t.base) = spell (peel t.layers) t.base := by
    rw [Text.afterLast, Text.splitLast?_eq_none_iff.mpr (point_not_mem_spell unqualified _)]
  intro same
  rw [bare, element_text, whole, left, split] at same
  refine t.base.name.not_mem foreign ?_
  rw [← same, String.toList_ofList]
  exact List.mem_append_right _ List.mem_cons_self

end

/-- Of all type expressions, those are read right whose layers are, from outside in, at most one channel,
pointers, at most one array or slice, at most one map, and pointers. Any other loses its package, or where
it has none its name. -/
theorem readsRight_iff_peelable (t : TypeExpr) :
    (t.ReadsRight ↔ Peelable t.layers) ∧
    (¬ Peelable t.layers →
      qualifier? t.text = none ∧ (t.base.package? = none → bare t.text ≠ t.base.name.text)) := by
  have astray (left : peel t.layers ≠ []) :
      qualifier? t.text = none ∧ (t.base.package? = none → bare t.text ≠ t.base.name.text) := by
    obtain ⟨layer, layers, left⟩ := List.exists_cons_of_ne_nil left
    exact ⟨qualifier?_of_peel_cons t left, bare_of_peel_cons t left⟩
  rw [← peel_eq_nil_iff]
  refine ⟨⟨fun right => ?_, readsRight_of_peel_nil⟩, astray⟩
  by_contra left
  obtain ⟨hidden, wrong⟩ := astray left
  obtain ⟨name, package⟩ := right
  rw [hidden] at package
  exact wrong (Option.map_eq_none_iff.mp package.symm) name

def storeItem (layers : List Layer) : TypeExpr :=
  ⟨layers, some ⟨"store", by decide⟩, ⟨"Item", by decide⟩⟩

/-- Each kind of layer once, with pointers on both sides; and a pointer too many. -/
theorem readsRight_iff_peelable_storeItem :
    let whole := storeItem [.channel .receive, .pointer, .pointer, .array ⟨"4", by decide⟩,
      .map ⟨"string", by decide⟩, .pointer]
    let half := storeItem [.slice, .pointer, .map ⟨"string", by decide⟩]
    whole.text = "<-chan **[4]map[string]*store.Item" ∧ Peelable whole.layers ∧ whole.ReadsRight ∧
    half.text = "[]*map[string]store.Item" ∧ ¬ Peelable half.layers ∧ qualifier? half.text = none := by
  intro whole half
  have off : Peelable whole.layers := by decide
  have on : ¬ Peelable half.layers := by decide
  exact ⟨by decide, off, (readsRight_iff_peelable whole).1.mpr off, by decide, on,
    ((readsRight_iff_peelable half).2 on).1⟩

/-- Of slices in a slice or in a map one remains. It becomes a part of the name, or hides the package. -/
theorem not_readsRight_nestedSlices :
    let rows : TypeExpr := ⟨[.slice, .slice], none, ⟨"Item", by decide⟩⟩
    let table := storeItem [.map ⟨"string", by decide⟩, .slice]
    rows.text = "[][]Item" ∧ bare rows.text = "[]Item" ∧ ¬ rows.ReadsRight ∧
    table.text = "map[string][]store.Item" ∧ qualifier? table.text = none ∧ ¬ table.ReadsRight := by
  decide

end ArchAtlas.TypeName
