import FlatMessage.Proofs.Elements.Attributes
import FlatMessage.Proofs.SoundTree

/-!
# Nested marks

The marks of a document nest: every opening tag has a closing tag with its name, and between
the two stand the marks of other elements and text.  `Nests` reads the elements off such marks
without a stack.  The stack machine that assembles a tree succeeds exactly on nested marks with
one element outside all others, and gives that element.
-/

namespace FlatMessage.Xml

/-- The attributes of an element are those that are read from its tag. -/
def CarriesRead (chars : List Char) (attributes : List (String × String)) : Prop :=
  Carries ((attributeItemsOf chars).filterMap Except.toOption) attributes

/-- Nested marks with the elements and the text that stand directly among them.  What a tag
says of the attributes of its element is given by `carries`. -/
inductive Nests (carries : List Char → List (String × String) → Prop) :
    List Mark → List Element → String → Prop
  | nil : Nests carries [] [] ""
  | text {content : List Char} {later : List Mark} {elements : List Element} {words : String}
      (rest : Nests carries later elements words) :
      Nests carries (.text content :: later) elements
        (String.ofList (Text.trimChars content) ++ words)
  | empty {name attributes short : List Char} {carried : List (String × String)}
      {later : List Mark} {elements : List Element} {words : String}
      (named : IsLocalName name short) (carry : carries attributes carried)
      (rest : Nests carries later elements words) :
      Nests carries (.empty name attributes :: later)
        (.mk (String.ofList short) carried [] "" :: elements) words
  | element {name attributes short : List Char} {carried : List (String × String)}
      {inner later : List Mark} {children elements : List Element} {content words : String}
      (named : IsLocalName name short) (carry : carries attributes carried)
      (within : Nests carries inner children content)
      (rest : Nests carries later elements words) :
      Nests carries (.opening name attributes :: (inner ++ .closing name :: later))
        (.mk (String.ofList short) carried children content :: elements) words

/-! ## Elements that are filled -/

/-- Add child elements and text after those so far. -/
def Element.fill (element : Element) (elements : List Element) (words : String) : Element :=
  .mk element.name element.attributes (element.children ++ elements) (element.text ++ words)

section

variable {element child result : Element} {elements : List Element} {words more : String}
  {name attributes short : List Char} {carried : List (String × String)}
  {outer : List OpenElement} {root : Option Element} {found rest : List Mark}

@[simp]
theorem Element.fill_nil : element.fill [] "" = element := by
  cases element
  simp [fill, Element.name, Element.attributes, children, text]

@[simp]
theorem Element.addText_fill :
    (element.addText more).fill elements words = element.fill elements (more ++ words) := by
  simp [fill, addText, Element.name, Element.attributes, children, text, String.append_assoc]

@[simp]
theorem Element.addChild_fill :
    (element.addChild child).fill elements words = element.fill (child :: elements) words := by
  simp [fill, addChild, Element.name, Element.attributes, children, text]

@[simp]
theorem Element.mk_fill {name : String} :
    (Element.mk name carried [] "").fill elements words = .mk name carried elements words := by
  simp [fill, Element.name, Element.attributes, children, text]

/-! ## Steps of the machine -/

theorem readTag_eq_ok_iff :
    readTag name attributes = .ok element ↔
      ∃ short carried, IsLocalName name short ∧ CarriesRead attributes carried ∧
        element = .mk (String.ofList short) carried [] "" := by
  rw [readTag, attributesOf_eq_filterMap]
  constructor
  · intro read
    cases outcome : readAttributes (String.ofList (localName name))
        ((attributeItemsOf attributes).filterMap Except.toOption) with
    | error => simp [outcome, Except.map] at read
    | ok carried =>
        simp only [outcome, Except.map, Except.ok.injEq] at read
        exact ⟨_, carried, localName_eq_iff.mp rfl, readAttributes_eq_ok_iff.mp outcome, read.symm⟩
  · rintro ⟨short, carried, named, carries, rfl⟩
    rw [localName_eq_iff.mpr named, readAttributes_eq_ok_iff.mpr carries]
    rfl

theorem assemble_closing {name : List Char} :
    assemble (⟨name, element⟩ :: outer) root (.closing name :: rest) =
      (attach element outer root >>= fun (stack, root) => assemble stack root rest) := by
  rw [assemble, if_pos rfl]

/-! ## Nested marks are assembled -/

/-- Nested marks fill the innermost open element. -/
theorem assemble_nests (nests : Nests CarriesRead found elements words) :
    assemble (⟨name, element⟩ :: outer) root (found ++ rest) =
      assemble (⟨name, element.fill elements words⟩ :: outer) root rest := by
  induction nests generalizing name element outer rest with
  | nil => rw [Element.fill_nil, List.nil_append]
  | text _ ih =>
      rw [List.cons_append, assemble, ih, Element.addText_fill]
  | empty named carry _ ih =>
      have tag := readTag_eq_ok_iff.mpr ⟨_, _, named, carry, rfl⟩
      rw [List.cons_append, assemble, tag]
      change assemble (⟨name, element.addChild _⟩ :: outer) root _ = _
      rw [ih, Element.addChild_fill]
  | element named carry _ _ inner later =>
      have tag := readTag_eq_ok_iff.mpr ⟨_, _, named, carry, rfl⟩
      rw [List.cons_append, assemble, tag, List.append_assoc]
      change assemble (⟨_, _⟩ :: ⟨name, element⟩ :: outer) root _ = _
      rw [inner, Element.mk_fill, List.cons_append, assemble_closing]
      change assemble (⟨name, element.addChild _⟩ :: outer) root _ = _
      rw [later, Element.addChild_fill]

/-- Nested marks with one element outside all others are assembled to that element. -/
theorem assemble_outside (nests : Nests CarriesRead found elements words)
    (single : root.toList ++ elements = [result]) : assemble [] root found = .ok result := by
  induction nests generalizing root with
  | nil =>
      rw [List.append_nil, Option.toList_eq_singleton_iff] at single
      rw [single, assemble]
  | text _ ih =>
      rw [assemble]
      exact ih single
  | @empty _ _ _ _ _ elements _ named carry _ ih =>
      have tag := readTag_eq_ok_iff.mpr ⟨_, _, named, carry, rfl⟩
      rw [assemble, tag]
      cases root with
      | none => exact ih single
      | some first => simp at single
  | @element _ _ _ _ inner later _ _ _ _ named carry within _ _ ih =>
      have tag := readTag_eq_ok_iff.mpr ⟨_, _, named, carry, rfl⟩
      rw [assemble, tag]
      change assemble [⟨_, _⟩] root (inner ++ _) = _
      rw [assemble_nests within, Element.mk_fill, assemble_closing]
      cases root with
      | none => exact ih single
      | some first => simp at single

/-! ## Only nested marks are assembled -/

/-- Where an element is open, its closing tag comes after nested marks that fill it. -/
theorem exists_nests_of_open
    (success : assemble (⟨name, element⟩ :: outer) root found = .ok result) :
    ∃ inner later elements words, found = inner ++ .closing name :: later ∧
      Nests CarriesRead inner elements words ∧
        (attach (element.fill elements words) outer root >>= fun (stack, root) =>
          assemble stack root later) = .ok result := by
  induction sized : found.length using Nat.strong_induction_on
    generalizing found name element outer with
  | _ size ih =>
      -- by length: what follows an inner element is read with the outer one open again
      cases found with
      | nil => cases success
      | cons mark rest =>
          rw [List.length_cons] at sized
          cases mark with
          | broken => cases success
          | text content =>
              change assemble (⟨name, element.addText _⟩ :: outer) root rest = _ at success
              obtain ⟨inner, later, elements, words, rfl, nests, ends⟩ :=
                ih _ (by omega) success rfl
              rw [Element.addText_fill] at ends
              exact ⟨.text content :: inner, later, elements, _, rfl, .text nests, ends⟩
          | empty tag attributes =>
              obtain ⟨child, read, success⟩ := bind_eq_ok_iff.mp success
              obtain ⟨short, carried, named, carry, rfl⟩ := readTag_eq_ok_iff.mp read
              obtain ⟨inner, later, elements, words, rfl, nests, ends⟩ :=
                ih _ (by omega) success rfl
              rw [Element.addChild_fill] at ends
              exact ⟨.empty tag attributes :: inner, later, _, words, rfl,
                .empty named carry nests, ends⟩
          | opening tag attributes =>
              obtain ⟨child, read, success⟩ := bind_eq_ok_iff.mp success
              obtain ⟨short, carried, named, carry, rfl⟩ := readTag_eq_ok_iff.mp read
              obtain ⟨within, behind, children, content, rfl, inside, success⟩ :=
                ih _ (by omega) success rfl
              obtain ⟨inner, later, elements, words, rfl, nests, ends⟩ :=
                ih _ (by simp at sized; omega) success rfl
              rw [Element.addChild_fill, Element.mk_fill] at ends
              exact ⟨.opening tag attributes :: (within ++ .closing tag :: inner), later, _, words,
                by simp, .element named carry inside nests, ends⟩
          | closing tag =>
              rw [assemble] at success
              split at success
              · next same =>
                  obtain rfl : name = tag := same
                  refine ⟨[], rest, [], "", rfl, .nil, ?_⟩
                  rwa [Element.fill_nil]
              · cases success

/-- Outside all elements, marks are nested, with one element among them and at the root. -/
theorem exists_nests_of_outside (success : assemble [] root found = .ok result) :
    ∃ elements words, Nests CarriesRead found elements words ∧
      root.toList ++ elements = [result] := by
  induction sized : found.length using Nat.strong_induction_on generalizing found root with
  | _ size ih =>
      -- a first element outside all others leaves no room for a second one
      have alone {child : Element} {later : List Mark} (shorter : later.length < size)
          (success : (attach child [] root >>= fun (stack, root) => assemble stack root later) =
            .ok result) :
          ∃ words, Nests CarriesRead later [] words ∧ root.toList ++ [child] = [result] := by
        cases root with
        | some first => cases success
        | none =>
            obtain ⟨elements, words, nests, single⟩ := ih _ shorter success rfl
            obtain ⟨rfl, rfl⟩ : child = result ∧ elements = [] := by simpa using single
            exact ⟨words, nests, rfl⟩
      cases found with
      | nil =>
          cases root with
          | none => cases success
          | some first =>
              cases success
              exact ⟨[], "", .nil, rfl⟩
      | cons mark rest =>
          rw [List.length_cons] at sized
          cases mark with
          | broken => cases success
          | closing tag => cases success
          | text content =>
              change assemble [] root rest = _ at success
              obtain ⟨elements, words, nests, single⟩ := ih _ (by omega) success rfl
              exact ⟨elements, _, .text nests, single⟩
          | empty tag attributes =>
              obtain ⟨child, read, success⟩ := bind_eq_ok_iff.mp success
              obtain ⟨short, carried, named, carry, rfl⟩ := readTag_eq_ok_iff.mp read
              obtain ⟨words, nests, single⟩ := alone (by omega) success
              exact ⟨_, words, .empty named carry nests, single⟩
          | opening tag attributes =>
              obtain ⟨child, read, success⟩ := bind_eq_ok_iff.mp success
              obtain ⟨short, carried, named, carry, rfl⟩ := readTag_eq_ok_iff.mp read
              obtain ⟨within, behind, children, content, rfl, inside, success⟩ :=
                exists_nests_of_open success
              rw [Element.mk_fill] at success
              obtain ⟨words, nests, single⟩ := alone (by simp at sized; omega) success
              exact ⟨_, words, .element named carry inside nests, single⟩

end

/-- Marks are assembled to an element exactly where they are nested with that element alone
outside all others. -/
theorem assemble_eq_ok_iff {found : List Mark} {element : Element} :
    assemble [] none found = .ok element ↔ ∃ words, Nests CarriesRead found [element] words := by
  constructor
  · intro success
    obtain ⟨elements, words, nests, single⟩ := exists_nests_of_outside success
    obtain rfl : elements = [element] := single
    exact ⟨words, nests⟩
  · rintro ⟨words, nests⟩
    exact assemble_outside nests rfl

end FlatMessage.Xml
