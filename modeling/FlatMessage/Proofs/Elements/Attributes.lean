import FlatMessage.Proofs.Elements.Scanning
import FlatMessage.Xml.Reader
import Mathlib.Data.List.Forall2

/-!
# The attributes of a tag

The text of a tag after its name holds attributes and faults: an attribute without a value, one
whose value is not in quotes or whose quotation is not closed, and one whose name was there
before.  Reading goes on behind most faults, and all of them are passed over.  A text without
faults is a sequence of attributes with different names, and all of them are read.
-/

namespace FlatMessage.Xml

/-! ## Attributes as they are written -/

/-- The text of one attribute, with the blank characters before it. -/
inductive IsAttribute : List Char → List Char → List Char → Prop
  | intro {before more between behind raw : List Char} {first mark : Char}
      (blankBefore : ∀ c ∈ before, isSpace c = true) (begins : isSpace first = false)
      (inside : ∀ c ∈ more, c ≠ '=' ∧ isSpace c = false)
      (blankBetween : ∀ c ∈ between, isSpace c = true)
      (blankBehind : ∀ c ∈ behind, isSpace c = true) (quotes : mark = '"' ∨ mark = '\'')
      (quoted : ∀ c ∈ raw, c ≠ mark) :
      IsAttribute (first :: more) raw
        (before ++ first :: (more ++ (between ++ '=' :: (behind ++ mark :: (raw ++ [mark])))))

/-- A text that is nothing but the given attributes, with different names that are not among
those of `seen`. -/
inductive IsAttributes : List (List Char) → List Char → List (List Char × List Char) → Prop
  | blank {seen : List (List Char)} {chars : List Char} (blanks : ∀ c ∈ chars, isSpace c = true) :
      IsAttributes seen chars []
  | cons {seen : List (List Char)} {name raw chars rest : List Char}
      {written : List (List Char × List Char)} (here : IsAttribute name raw chars)
      (fresh : name ∉ seen) (later : IsAttributes (name :: seen) rest written) :
      IsAttributes seen (chars ++ rest) ((name, raw) :: written)

/-! ## Attributes and faults -/

/-- What is wrong with an attribute as it is written. -/
inductive AttributeFault
  | unvalued
  | unquoted
  | unclosed
  | repeated
  deriving DecidableEq, Repr

/-- Whether a character that is not the first one belongs to a name. -/
def isInName (c : Char) : Bool :=
  c != '=' && !isSpace c

/-- The first attribute or fault of a text, the names that are seen with it, and the text
behind it; nothing if the text is blank. -/
def nextItem (seen : List (List Char)) (chars : List Char) :
    Option (Except AttributeFault (List Char × List Char) × List (List Char) × List Char) :=
  match chars.dropWhile isSpace with
  | [] => none
  | first :: rest =>
      let name := first :: rest.takeWhile isInName
      match (rest.dropWhile isInName).dropWhile isSpace with
      | '=' :: value =>
          if seen.contains name then some (.error .repeated, seen, afterFault value)
          else
            match value.dropWhile isSpace with
            | quote :: content =>
                if quote = '"' ∨ quote = '\'' then
                  let raw := content.takeWhile (· != quote)
                  match content.drop raw.length with
                  | _ :: after => some (.ok (name, raw), name :: seen, after)
                  | [] => some (.error .unclosed, seen, [])
                else some (.error .unquoted, name :: seen, afterFault (quote :: content))
            | [] => some (.error .unvalued, seen, [])
      | after => some (.error .unvalued, seen, after)

/-- The attributes of a text and the faults among them. -/
def attributeItems : Nat → List (List Char) → List Char →
    List (Except AttributeFault (List Char × List Char))
  | 0, _, _ => []
  | fuel + 1, seen, chars =>
      match nextItem seen chars with
      | none => []
      | some (item, seen, rest) => item :: attributeItems fuel seen rest

/-- The attributes and faults in the text of a tag after its name. -/
def attributeItemsOf (chars : List Char) : List (Except AttributeFault (List Char × List Char)) :=
  attributeItems (chars.length + 1) [] chars

section

variable {seen next : List (List Char)} {chars rest : List Char} {fuel : Nat}

@[simp]
theorem attributes_nil : attributes fuel seen [] = [] := by
  cases fuel <;> rfl

theorem attributes_succ (fuel : Nat) (seen : List (List Char)) (chars : List Char) :
    attributes (fuel + 1) seen chars =
      match nextItem seen chars with
      | none => []
      | some (item, next, rest) => item.toOption.toList ++ attributes fuel next rest := by
  have inName : (fun c => c != '=' && !isSpace c) = isInName := rfl
  simp only [attributes, inName]
  fun_cases nextItem seen chars <;>
    simp_all +zetaDelta only [Except.toOption, Option.toList, attributes_nil, List.nil_append,
      List.cons_append, if_true, if_false, Bool.false_eq_true]

/-- Faults are passed over. -/
theorem attributes_eq_filterMap (fuel : Nat) (seen : List (List Char)) (chars : List Char) :
    attributes fuel seen chars = (attributeItems fuel seen chars).filterMap Except.toOption := by
  induction fuel generalizing seen chars with
  | zero => rfl
  | succ fuel ih =>
      rw [attributes_succ, attributeItems]
      cases nextItem seen chars with
      | none => rfl
      | some found =>
          obtain ⟨item, next, rest⟩ := found
          cases item <;> simp only [ih, List.filterMap_cons] <;> rfl

theorem nextItem_eq_none_iff : nextItem seen chars = none ↔ ∀ c ∈ chars, isSpace c = true := by
  rw [← List.dropWhile_eq_nil_iff]
  fun_cases nextItem seen chars <;> simp_all

/-- The runs that are read one after another are an attribute as it is written. -/
theorem isAttribute_of_runs {first mark last : Char} {more value content : List Char}
    (starts : chars.dropWhile isSpace = first :: more)
    (valued : (more.dropWhile isInName).dropWhile isSpace = '=' :: value)
    (opened : value.dropWhile isSpace = mark :: content) (quotes : mark = '"' ∨ mark = '\'')
    (closed : content.dropWhile (· != mark) = last :: rest) :
    ∃ written, IsAttribute (first :: more.takeWhile isInName) (content.takeWhile (· != mark))
      written ∧ chars = written ++ rest := by
  obtain ⟨before, blankBefore, begins, rfl⟩ := exists_run_of_dropWhile_eq starts
  obtain ⟨between, blankBetween, -, named⟩ := exists_run_of_dropWhile_eq valued
  obtain ⟨behind, blankBehind, -, rfl⟩ := exists_run_of_dropWhile_eq opened
  obtain rfl : last = mark := by
    obtain ⟨_, -, equal, -⟩ := exists_run_of_dropWhile_eq closed
    simpa using equal
  refine ⟨_, .intro blankBefore begins ?_ blankBetween blankBehind quotes ?_, ?_⟩
  · intro c inside
    simpa [isInName] using List.mem_takeWhile_imp inside
  · intro c inside
    simpa using List.mem_takeWhile_imp inside
  · have name := List.takeWhile_append_dropWhile (p := isInName) (l := more)
    have raw := List.takeWhile_append_dropWhile (p := (· != last)) (l := content)
    rw [named] at name
    rw [closed] at raw
    conv_lhs => rw [← name, ← raw]
    simp only [List.append_assoc, List.cons_append, List.nil_append]

/-- What is read as an attribute is written so, with a new name. -/
theorem exists_isAttribute {name raw : List Char}
    (found : nextItem seen chars = some (.ok (name, raw), next, rest)) :
    name ∉ seen ∧ next = name :: seen ∧
      ∃ written, IsAttribute name raw written ∧ chars = written ++ rest := by
  unfold nextItem at found
  split at found
  · cases found
  · next first more starts =>
      dsimp only at found
      split at found
      · next value valued =>
          split at found
          · cases found
          · next fresh =>
              split at found
              · next mark content opened =>
                  split at found
                  · next quotes =>
                      split at found
                      · next last after closed =>
                          cases found
                          rw [drop_length_takeWhile] at closed
                          exact ⟨by simpa using fresh, rfl,
                            isAttribute_of_runs starts valued opened quotes closed⟩
                      · cases found
                  · cases found
              · cases found
      · cases found

/-- An attribute with a new name is read. -/
theorem nextItem_append {name raw written : List Char} (here : IsAttribute name raw written)
    (fresh : name ∉ seen) :
    nextItem seen (written ++ rest) = some (.ok (name, raw), name :: seen, rest) := by
  cases here with
  | @intro before more between behind raw first mark blankBefore begins inside blankBetween
      blankBehind quotes quoted =>
      have inName : ∀ c ∈ more, isInName c = true := fun c within => by
        simpa [isInName] using inside c within
      have apart (value : List Char) :
          ∀ c ∈ (between ++ '=' :: value).head?, isInName c = false := by
        intro c here
        cases between with
        | nil =>
            cases here
            rfl
        | cons d between =>
            cases here
            simp [isInName, blankBetween c List.mem_cons_self]
      have visible : isSpace mark = false := by rcases quotes with rfl | rfl <;> rfl
      have unquoted : ∀ c ∈ raw, (c != mark) = true := fun c within =>
        bne_iff_ne.mpr (quoted c within)
      have named : seen.contains (first :: more) = false := by simpa using fresh
      have starts (tail : List Char) :
          (before ++ first :: tail).dropWhile isSpace = first :: tail :=
        dropWhile_run_cons blankBefore begins
      have valued (value : List Char) :
          (between ++ '=' :: value).dropWhile isSpace = '=' :: value :=
        dropWhile_run_cons blankBetween rfl
      have opened (content : List Char) :
          (behind ++ mark :: content).dropWhile isSpace = mark :: content :=
        dropWhile_run_cons blankBehind visible
      have closed : (raw ++ mark :: rest).takeWhile (· != mark) = raw :=
        takeWhile_run_cons unquoted (bne_self_eq_false mark)
      simp only [nextItem, List.append_assoc, List.cons_append, List.nil_append, starts,
        takeWhile_run inName (apart _), dropWhile_run inName (apart _), valued, named, opened,
        closed, if_pos quotes, List.drop_left, Bool.false_eq_true, if_false]

theorem IsAttribute.ne_nil {name raw written : List Char} (here : IsAttribute name raw written) :
    written ≠ [] := by
  cases here
  exact List.append_ne_nil_of_right_ne_nil _ (List.cons_ne_nil _ _)

/-- A text is without faults exactly where it is a sequence of attributes. -/
theorem attributeItems_eq_iff {written : List (List Char × List Char)}
    (enough : chars.length < fuel) :
    attributeItems fuel seen chars = written.map .ok ↔ IsAttributes seen chars written := by
  constructor
  · intro items
    induction fuel generalizing seen chars written with
    | zero => exact absurd enough (Nat.not_lt_zero _)
    | succ fuel ih =>
        rw [attributeItems] at items
        split at items
        · next blank =>
            rw [List.map_eq_nil_iff.mp items.symm]
            exact .blank (nextItem_eq_none_iff.mp blank)
        · next item next rest found =>
            obtain ⟨⟨name, raw⟩, later, rfl, rfl, tail⟩ := List.map_eq_cons_iff.mp items.symm
            obtain ⟨fresh, rfl, text, here, rfl⟩ := exists_isAttribute found
            have := List.length_pos_iff.mpr here.ne_nil
            rw [List.length_append] at enough
            exact .cons here fresh (ih (by omega) tail.symm)
  · intro text
    induction text generalizing fuel with
    | blank blanks =>
        obtain ⟨less, rfl⟩ := Nat.exists_eq_add_one_of_ne_zero (Nat.ne_zero_of_lt enough)
        rw [attributeItems, nextItem_eq_none_iff.mpr blanks]
        rfl
    | cons here fresh _ ih =>
        obtain ⟨less, rfl⟩ := Nat.exists_eq_add_one_of_ne_zero (Nat.ne_zero_of_lt enough)
        have := List.length_pos_iff.mpr here.ne_nil
        rw [List.length_append] at enough
        rw [attributeItems, nextItem_append here fresh]
        exact congrArg _ (ih (by omega))

end

/-- The attributes that are read are those that are not faults. -/
theorem attributesOf_eq_filterMap (chars : List Char) :
    attributesOf chars = (attributeItemsOf chars).filterMap Except.toOption :=
  attributes_eq_filterMap _ _ _

theorem attributeItemsOf_eq_iff {chars : List Char} {written : List (List Char × List Char)} :
    attributeItemsOf chars = written.map .ok ↔ IsAttributes [] chars written :=
  attributeItems_eq_iff (Nat.lt_succ_self _)

/-- All attributes of a text without faults are read, in the order of the text. -/
theorem IsAttributes.attributesOf_eq {chars : List Char} {written : List (List Char × List Char)}
    (text : IsAttributes [] chars written) : attributesOf chars = written := by
  rw [attributesOf_eq_filterMap, attributeItemsOf_eq_iff.mpr text, List.filterMap_map]
  exact List.filterMap_some

/-! ## Values and names -/

/-- The value that a text denotes: its references, which reach to the next semicolon, stand
for characters, and all else for itself. -/
inductive Unescapes : List Char → List Char → Prop
  | nil : Unescapes [] []
  | plain {c : Char} {raw value : List Char} (other : c ≠ '&') (later : Unescapes raw value) :
      Unescapes (c :: raw) (c :: value)
  | reference {name raw value : List Char} {resolved : Char}
      (plain : ∀ c ∈ name, c ≠ ';' ∧ c ≠ '&') (denotes : reference? name = some resolved)
      (later : Unescapes raw value) :
      Unescapes ('&' :: (name ++ ';' :: raw)) (resolved :: value)

/-- A reference that is being read is resolved at its semicolon. -/
theorem resolve_some_eq_some_iff {pending raw value : List Char} :
    resolve (some pending) raw = some value ↔
      ∃ name rest resolved later, (∀ c ∈ name, c ≠ ';' ∧ c ≠ '&') ∧ raw = name ++ ';' :: rest ∧
        reference? (pending.reverse ++ name) = some resolved ∧
        resolve none rest = some later ∧ value = resolved :: later := by
  constructor
  · intro found
    induction raw generalizing pending with
    | nil => cases found
    | cons c raw ih =>
        simp only [resolve] at found
        split at found
        · next closes =>
            obtain ⟨resolved, denotes, found⟩ := Option.bind_eq_some_iff.mp found
            obtain ⟨later, ends, rfl⟩ := Option.map_eq_some_iff.mp found
            refine ⟨[], raw, resolved, later, nofun, by rw [closes]; rfl, ?_, ends, rfl⟩
            rwa [List.append_nil]
        · next open_ =>
            split at found
            · cases found
            · next other =>
                obtain ⟨name, rest, resolved, later, plain, rfl, denotes, ends, rfl⟩ := ih found
                refine ⟨c :: name, rest, resolved, later,
                  List.forall_mem_cons.mpr ⟨⟨open_, other⟩, plain⟩, rfl, ?_, ends, rfl⟩
                rwa [List.reverse_cons, List.append_assoc] at denotes
  · rintro ⟨name, rest, resolved, later, plain, rfl, denotes, ends, rfl⟩
    induction name generalizing pending with
    | nil =>
        rw [List.append_nil] at denotes
        simp [resolve, denotes, ends]
    | cons c name ih =>
        rw [List.forall_mem_cons] at plain
        simp only [List.cons_append, resolve, if_neg plain.1.1, if_neg plain.1.2]
        exact ih plain.2 (by rwa [List.reverse_cons, List.append_assoc])

theorem resolve_eq_some_iff {raw value : List Char} :
    resolve none raw = some value ↔ Unescapes raw value := by
  constructor
  · intro found
    induction sized : raw.length using Nat.strong_induction_on generalizing raw value with
    | _ size ih =>
        -- by length: a reference is read as a whole
        cases raw with
        | nil =>
            cases found
            exact .nil
        | cons c raw =>
            simp only [resolve] at found
            rw [List.length_cons] at sized
            split at found
            · next begins =>
                obtain ⟨name, rest, resolved, later, plain, rfl, denotes, ends, rfl⟩ :=
                  resolve_some_eq_some_iff.mp found
                rw [begins]
                exact .reference plain denotes (ih _ (by simp at sized; omega) ends rfl)
            · next other =>
                obtain ⟨later, ends, rfl⟩ := Option.map_eq_some_iff.mp found
                exact .plain other (ih _ (by omega) ends rfl)
  · intro unescapes
    induction unescapes with
    | nil => rfl
    | plain other _ ih => simp [resolve, other, ih]
    | @reference name raw value resolved plain denotes _ ih =>
        simp only [resolve, if_true]
        exact resolve_some_eq_some_iff.mpr
          ⟨name, raw, resolved, value, plain, rfl, denotes, ih, rfl⟩

/-- A name without its qualifier, which reaches to the first colon. -/
inductive IsLocalName : List Char → List Char → Prop
  | unqualified {name : List Char} (plain : ':' ∉ name) : IsLocalName name name
  | qualified {qualifier name : List Char} (plain : ':' ∉ qualifier) :
      IsLocalName (qualifier ++ ':' :: name) name

theorem localName_eq_iff {name short : List Char} :
    localName name = short ↔ IsLocalName name short := by
  constructor
  · rintro rfl
    rw [localName]
    split
    · next colon rest left =>
        obtain ⟨qualifier, plain, ends, rfl⟩ := exists_run_of_dropWhile_eq left
        obtain rfl : colon = ':' := by simpa using ends
        exact .qualified fun within => absurd (plain _ within) (by decide)
    · next left =>
        refine .unqualified fun within => absurd ?_ (by decide : ¬ (':' != ':') = true)
        exact List.dropWhile_eq_nil_iff.mp left _ within
  · intro splits
    have others {chars : List Char} (plain : ':' ∉ chars) : ∀ c ∈ chars, (c != ':') = true :=
      fun c within => bne_iff_ne.mpr (ne_of_mem_of_not_mem within plain)
    cases splits with
    | unqualified plain => rw [localName, List.dropWhile_eq_nil_iff.mpr (others plain)]
    | qualified plain => rw [localName, dropWhile_run_cons (others plain) rfl]

/-! ## The attributes that an element carries -/

/-- The attributes of an element for those that are written in its tag: all but the namespace
declarations, in the same order and with the values that the written ones denote. -/
def Carries (written : List (List Char × List Char)) (attributes : List (String × String)) : Prop :=
  List.Forall₂
    (fun item carried => carried.1 = String.ofList item.1 ∧
      Unescapes item.2 carried.2.toList)
    (written.filter fun item => !declaresNamespace item.1) attributes

theorem readAttributes_eq_ok_iff {element : String} {written : List (List Char × List Char)}
    {attributes : List (String × String)} :
    readAttributes element written = .ok attributes ↔ Carries written attributes := by
  induction written generalizing attributes with
  | nil =>
      rw [readAttributes, Carries, List.filter_nil, List.forall₂_nil_left_iff]
      exact ⟨fun same => by cases same; rfl, fun same => by rw [same]⟩
  | cons first written ih =>
      obtain ⟨name, raw⟩ := first
      rw [readAttributes]
      split
      · next declares =>
          rw [ih, Carries, Carries, List.filter_cons_of_neg (by simpa using declares)]
      · next other =>
          rw [Carries, List.filter_cons_of_pos (by simpa using other), List.forall₂_cons_left_iff]
          constructor
          · intro found
            split at found
            · next value resolved =>
                cases rest : readAttributes element written with
                | error => simp [rest, Except.map] at found
                | ok later =>
                    rw [rest] at found
                    cases found
                    refine ⟨_, later, ⟨rfl, ?_⟩, ih.mp rest, rfl⟩
                    rw [String.toList_ofList]
                    exact resolve_eq_some_iff.mp resolved
            · cases found
          · rintro ⟨⟨key, value⟩, later, ⟨rfl, unescapes⟩, carries, rfl⟩
            rw [resolve_eq_some_iff.mpr unescapes]
            simp only [ih.mpr carries, String.ofList_toList, Except.map]

end FlatMessage.Xml
