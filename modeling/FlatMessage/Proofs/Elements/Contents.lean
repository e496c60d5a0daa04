import FlatMessage.Proofs.Elements.Nesting
import FlatMessage.Proofs.Elements.Scanning

/-!
# The contents of documents

A text is cut into marks in one way.  `Lexes` says how, without fuel: markup that leaves no
mark, tags, and runs of other characters that are as long as they can be.  The marks of a text
are whole exactly where it can be cut so; everywhere else they end with broken markup.

`Contains` is the grammar of documents with the elements that they denote: what stands between
two tags is a sequence of silent markup, runs of text and elements, and an element is an empty
tag, or an opening and a closing tag with the same name and contents between them.  A text
contains elements exactly where it is cut into marks that nest, with the same elements.
-/

namespace FlatMessage.Xml

/-! ## Cutting a text into marks -/

/-- Whether a character belongs to the text between markup. -/
def isPlain (c : Char) : Bool :=
  c != '<' && c != '&'

/-- Markup that leaves no mark: a declaration, a processing instruction up to the first mark
that closes it, or a general reference. -/
inductive IsSilent : List Char → Prop
  | declaration {declaration : List Char} (kind : IsDeclaration declaration) :
      IsSilent ('<' :: '!' :: declaration)
  | instruction {body : List Char} (titled : body.head? ≠ some '>')
      (first : ¬ "?>".toList <:+: body ++ "?".toList) :
      IsSilent ('<' :: '?' :: (body ++ "?>".toList))
  | reference {name : List Char} (plain : ∀ c ∈ name, c ≠ ';' ∧ c ≠ '&' ∧ c ≠ '<') :
      IsSilent ('&' :: (name ++ [';']))

/-- What may stand between the angle brackets of a tag that opens an element. -/
structure IsStartTag (content : List Char) : Prop where
  text : IsTagText none content
  start : ∀ c ∈ content.head?, c ≠ '!' ∧ c ≠ '?' ∧ c ≠ '/'

/-- The texts that are cut into marks without broken markup, and their marks. -/
inductive Lexes : List Char → List Mark → Prop
  | nil : Lexes [] []
  | silent {chars rest : List Char} {found : List Mark} (silent : IsSilent chars)
      (later : Lexes rest found) : Lexes (chars ++ rest) found
  | tag {content rest : List Char} {found : List Mark} (start : IsStartTag content)
      (later : Lexes rest found) :
      Lexes ('<' :: (content ++ '>' :: rest)) (tagMark content :: found)
  | closing {content rest : List Char} {found : List Mark} (text : IsTagText none content)
      (later : Lexes rest found) :
      Lexes ('<' :: '/' :: (content ++ '>' :: rest)) (.closing (closingName content) :: found)
  | text {chars rest : List Char} {found : List Mark} (filled : chars ≠ [])
      (plain : ∀ c ∈ chars, isPlain c = true) (ends : ∀ c ∈ rest.head?, isPlain c = false)
      (later : Lexes rest found) : Lexes (chars ++ rest) (.text chars :: found)

/-! ## One mark after another -/

section

variable {chars content rest : List Char}

theorem marks_silent (silent : IsSilent chars) (fuel : Nat) :
    marks (fuel + 1) (chars ++ rest) = marks fuel rest := by
  cases silent with
  | @declaration declaration kind =>
      have ended : afterDeclaration? (declaration ++ rest) = some rest :=
        afterDeclaration?_eq_some_iff.mpr ⟨declaration, kind, rfl⟩
      simp only [List.cons_append, marks, ended]
  | @instruction body titled first =>
      have ended : after? "?>".toList (body ++ "?>".toList ++ rest) = some rest :=
        (after?_eq_some_iff (by decide)).mpr ⟨body, first, rfl⟩
      have title : ¬ (body ++ "?>".toList ++ rest).head? = some '>' := by
        cases body with
        | nil => exact nofun
        | cons c body => exact titled
      simp only [List.cons_append, marks, ended, if_neg title]
  | @reference name plain =>
      have ended : afterReference? (name ++ ';' :: rest) = some rest :=
        afterReference?_eq_some_iff.mpr ⟨name, plain, rfl⟩
      simp only [List.cons_append, List.append_assoc, List.nil_append, marks, ended]

theorem marks_tag (start : IsStartTag content) (fuel : Nat) :
    marks (fuel + 1) ('<' :: (content ++ '>' :: rest)) = tagMark content :: marks fuel rest := by
  have ended : untilTagEnd none (content ++ '>' :: rest) = some (content, rest) :=
    untilTagEnd_eq_some_iff.mpr ⟨start.text, rfl⟩
  have other (c : Char) (marked : c = '!' ∨ c = '?' ∨ c = '/') (more : List Char) :
      content ++ '>' :: rest ≠ c :: more := by
    intro same
    cases content with
    | nil =>
        rw [List.nil_append, List.cons.injEq] at same
        rw [← same.1] at marked
        exact absurd marked (by decide)
    | cons d content =>
        rw [List.cons_append, List.cons.injEq] at same
        obtain ⟨rfl, -⟩ := same
        have := start.start d rfl
        tauto
  rw [marks, ended]
  · exact fun more => other '!' (by decide) more
  · exact fun more => other '?' (by decide) more
  · exact fun more => other '/' (by decide) more

theorem marks_closing (text : IsTagText none content) (fuel : Nat) :
    marks (fuel + 1) ('<' :: '/' :: (content ++ '>' :: rest)) =
      .closing (closingName content) :: marks fuel rest := by
  have ended : untilTagEnd none (content ++ '>' :: rest) = some (content, rest) :=
    untilTagEnd_eq_some_iff.mpr ⟨text, rfl⟩
  simp only [marks, ended]

theorem marks_text (filled : chars ≠ []) (plain : ∀ c ∈ chars, isPlain c = true)
    (ends : ∀ c ∈ rest.head?, isPlain c = false) (fuel : Nat) :
    marks (fuel + 1) (chars ++ rest) = .text chars :: marks fuel rest := by
  cases chars with
  | nil => exact absurd rfl filled
  | cons c chars =>
      rw [List.forall_mem_cons] at plain
      have noAngle : c ≠ '<' := by
        rintro rfl
        exact absurd plain.1 (by decide)
      have noReference : c ≠ '&' := by
        rintro rfl
        exact absurd plain.1 (by decide)
      rw [List.cons_append, marks]
      · change Mark.text (c :: (chars ++ rest).takeWhile isPlain) ::
          marks fuel ((chars ++ rest).dropWhile isPlain) = _
        rw [takeWhile_run plain.2 ends, dropWhile_run plain.2 ends]
      all_goals simp [noAngle, noReference]

theorem IsSilent.ne_nil (silent : IsSilent chars) : chars ≠ [] := by
  cases silent <;> exact List.cons_ne_nil _ _

/-- A text that can be cut into marks has them, if there is fuel enough. -/
theorem Lexes.marks_eq {found : List Mark} (lexes : Lexes chars found) {fuel : Nat}
    (enough : chars.length < fuel) : marks fuel chars = found := by
  induction lexes generalizing fuel with
  | nil => cases fuel <;> rfl
  | silent passed _ ih =>
      obtain ⟨less, rfl⟩ := Nat.exists_eq_add_one_of_ne_zero (Nat.ne_zero_of_lt enough)
      have := List.length_pos_iff.mpr passed.ne_nil
      rw [marks_silent passed, ih (by rw [List.length_append] at enough; omega)]
  | tag start _ ih =>
      obtain ⟨less, rfl⟩ := Nat.exists_eq_add_one_of_ne_zero (Nat.ne_zero_of_lt enough)
      rw [marks_tag start, ih (by simp at enough; omega)]
  | closing text _ ih =>
      obtain ⟨less, rfl⟩ := Nat.exists_eq_add_one_of_ne_zero (Nat.ne_zero_of_lt enough)
      rw [marks_closing text, ih (by simp at enough; omega)]
  | text filled plain ends _ ih =>
      obtain ⟨less, rfl⟩ := Nat.exists_eq_add_one_of_ne_zero (Nat.ne_zero_of_lt enough)
      have := List.length_pos_iff.mpr filled
      rw [marks_text filled plain ends, ih (by rw [List.length_append] at enough; omega)]

/-- Marks without broken markup among them are those that the text can be cut into. -/
theorem lexes_marks {fuel : Nat} (enough : chars.length < fuel)
    (whole : Mark.broken ∉ marks fuel chars) : Lexes chars (marks fuel chars) := by
  fun_induction marks fuel chars with
  | case1 => exact absurd enough (Nat.not_lt_zero _)
  | case2 => exact .nil
  | case3 fuel rest after ended ih =>
      obtain ⟨declaration, kind, rfl⟩ := afterDeclaration?_eq_some_iff.mp ended
      exact .silent (.declaration kind) (ih (by simp at enough; omega) whole)
  | case6 fuel rest titled after ended ih =>
      obtain ⟨body, first, rfl⟩ := (after?_eq_some_iff (by decide)).mp ended
      have title : body.head? ≠ some '>' := by
        cases body with
        | nil => exact nofun
        | cons c body => exact titled
      exact .silent (.instruction title first) (ih (by simp at enough; omega) whole)
  | case8 fuel rest content after ended ih =>
      obtain ⟨text, rfl⟩ := untilTagEnd_eq_some_iff.mp ended
      rw [List.mem_cons, not_or] at whole
      exact .closing text (ih (by simp at enough; omega) whole.2)
  | case10 fuel rest declares instructs closes content after ended ih =>
      obtain ⟨text, rfl⟩ := untilTagEnd_eq_some_iff.mp ended
      rw [List.mem_cons, not_or] at whole
      refine .tag ⟨text, ?_⟩ (ih (by simp at enough; omega) whole.2)
      intro c first
      cases content with
      | nil => cases first
      | cons d content =>
          cases first
          refine ⟨?_, ?_, ?_⟩ <;> rintro rfl
          · exact declares _ rfl
          · exact instructs _ rfl
          · exact closes _ rfl
  | case12 fuel rest after ended ih =>
      obtain ⟨name, plain, rfl⟩ := afterReference?_eq_some_iff.mp ended
      have := Lexes.silent (.reference plain) (ih (by simp at enough; omega) whole)
      simpa using this
  | case14 fuel c rest _ _ _ noAngle noReference _ ih =>
      rw [List.mem_cons, not_or] at whole
      have plain : ∀ d ∈ c :: rest.takeWhile isPlain, isPlain d = true := by
        rw [List.forall_mem_cons]
        exact ⟨by simpa [isPlain] using ⟨noAngle, noReference⟩, fun d => List.mem_takeWhile_imp⟩
      have shorter := (List.dropWhile_suffix (l := rest) isPlain).length_le
      rw [List.length_cons] at enough
      have later := ih (lt_of_le_of_lt shorter (by omega)) whole.2
      have text := Lexes.text (List.cons_ne_nil _ _) plain eq_false_of_mem_head?_dropWhile later
      rwa [List.cons_append, List.takeWhile_append_dropWhile] at text
  | _ => exact absurd List.mem_cons_self whole

end

/-! ## Contents -/

/-- The parts of a start tag: a name up to the first blank character, and the attributes. -/
structure IsTagParts (name attributes : List Char) : Prop where
  plain : ∀ c ∈ name, isSpace c = false
  apart : ∀ c ∈ attributes.head?, isSpace c = true

/-- The text of a closing tag: a name that may have blank characters after it. -/
structure IsClosingTag (name blanks : List Char) : Prop where
  text : IsTagText none (name ++ blanks)
  blank : ∀ c ∈ blanks, isSpace c = true
  named : name = [] → blanks = []

/-- The texts that stand between tags, with the elements and the text directly in them.  What a
tag says of the attributes of its element is given by `carries`. -/
inductive Contains (carries : List Char → List (String × String) → Prop) :
    List Char → List Element → String → Prop
  | nil : Contains carries [] [] ""
  | silent {markup rest : List Char} {elements : List Element} {words : String}
      (silent : IsSilent markup) (later : Contains carries rest elements words) :
      Contains carries (markup ++ rest) elements words
  | text {run rest : List Char} {elements : List Element} {words : String}
      (filled : run ≠ []) (plain : ∀ c ∈ run, isPlain c = true)
      (ends : ∀ c ∈ rest.head?, isPlain c = false) (later : Contains carries rest elements words) :
      Contains carries (run ++ rest) elements (String.ofList (Text.trimChars run) ++ words)
  | empty {name attributes short rest : List Char} {carried : List (String × String)}
      {elements : List Element} {words : String}
      (tag : IsStartTag (name ++ attributes ++ ['/'])) (parts : IsTagParts name attributes)
      (named : IsLocalName name short) (carry : carries attributes carried)
      (later : Contains carries rest elements words) :
      Contains carries ('<' :: (name ++ attributes ++ ['/'] ++ '>' :: rest))
        (.mk (String.ofList short) carried [] "" :: elements) words
  | element {name attributes short inner blanks rest : List Char}
      {carried : List (String × String)} {children elements : List Element}
      {content words : String}
      (tag : IsStartTag (name ++ attributes)) (parts : IsTagParts name attributes)
      (opens : (name ++ attributes).getLast? ≠ some '/') (named : IsLocalName name short)
      (carry : carries attributes carried) (within : Contains carries inner children content)
      (closing : IsClosingTag name blanks) (later : Contains carries rest elements words) :
      Contains carries
        ('<' :: (name ++ attributes ++ '>' ::
          (inner ++ '<' :: '/' :: (name ++ blanks ++ '>' :: rest))))
        (.mk (String.ofList short) carried children content :: elements) words

/-! ## Tags and their marks -/

section

variable {content name attributes blanks : List Char}

theorem IsTagParts.takeWhile_eq (parts : IsTagParts name attributes) :
    (name ++ attributes).takeWhile (!isSpace ·) = name :=
  takeWhile_run (fun c within => by simp [parts.plain c within])
    (fun c here => by simp [parts.apart c here])

theorem IsTagParts.dropWhile_eq (parts : IsTagParts name attributes) :
    (name ++ attributes).dropWhile (!isSpace ·) = attributes :=
  dropWhile_run (fun c within => by simp [parts.plain c within])
    (fun c here => by simp [parts.apart c here])

theorem isTagParts (content : List Char) :
    IsTagParts (content.takeWhile (!isSpace ·)) (content.dropWhile (!isSpace ·)) where
  plain c within := by simpa using List.mem_takeWhile_imp within
  apart c here := by simpa using eq_false_of_mem_head?_dropWhile c here

theorem tagMark_empty (parts : IsTagParts name attributes) :
    tagMark (name ++ attributes ++ ['/']) = .empty name attributes := by
  simp only [tagMark, List.reverse_append, List.reverse_cons, List.reverse_nil, List.nil_append,
    List.cons_append, List.reverse_reverse, parts.takeWhile_eq, parts.dropWhile_eq]

theorem tagMark_opening (parts : IsTagParts name attributes)
    (opens : (name ++ attributes).getLast? ≠ some '/') :
    tagMark (name ++ attributes) = .opening name attributes := by
  rw [tagMark]
  split
  · next more slash =>
      rw [← List.head?_reverse, slash] at opens
      exact absurd rfl opens
  · rw [parts.takeWhile_eq, parts.dropWhile_eq]

/-- A tag that ends with a slash is an empty one, and every other tag opens an element. -/
theorem tagMark_cases (content : List Char) :
    (∃ name attributes, IsTagParts name attributes ∧ content = name ++ attributes ++ ['/'] ∧
      tagMark content = .empty name attributes) ∨
    (∃ name attributes, IsTagParts name attributes ∧ content = name ++ attributes ∧
      content.getLast? ≠ some '/' ∧ tagMark content = .opening name attributes) := by
  by_cases slash : content.getLast? = some '/'
  · obtain ⟨tag, rfl⟩ := List.getLast?_eq_some_iff.mp slash
    have parts := isTagParts tag
    have whole := List.takeWhile_append_dropWhile (p := (!isSpace ·)) (l := tag)
    refine .inl ⟨_, _, parts, by rw [whole], ?_⟩
    rw [← tagMark_empty parts, whole]
  · have parts := isTagParts content
    have whole := List.takeWhile_append_dropWhile (p := (!isSpace ·)) (l := content)
    refine .inr ⟨_, _, parts, whole.symm, slash, ?_⟩
    rw [← tagMark_opening parts (by rwa [whole]), whole]

/-- A closing tag repeats the name of the tag that it closes. -/
theorem closingName_eq_iff (plain : ∀ c ∈ name, isSpace c = false) :
    closingName content = name ↔
      ∃ blanks, content = name ++ blanks ∧ (∀ c ∈ blanks, isSpace c = true) ∧
        (name = [] → blanks = []) := by
  constructor
  · rintro rfl
    rw [closingName]
    split
    · exact ⟨[], (List.append_nil _).symm, nofun, fun _ => rfl⟩
    · next filled =>
        have whole := List.takeWhile_append_dropWhile (p := isSpace) (l := content.reverse)
        refine ⟨(content.reverse.takeWhile isSpace).reverse, ?_, ?_, ?_⟩
        · rw [← List.reverse_append, whole, List.reverse_reverse]
        · intro c within
          exact List.mem_takeWhile_imp (List.mem_reverse.mp within)
        · intro none_
          rw [List.reverse_eq_nil_iff, List.dropWhile_eq_nil_iff] at none_
          exact absurd (List.all_eq_true.mpr fun c within => none_ c (List.mem_reverse.mpr within))
            filled
  · rintro ⟨blanks, rfl, blank, named⟩
    rcases List.eq_nil_or_concat' name with rfl | ⟨init, last, rfl⟩
    · rw [named rfl]
      rfl
    · have visible : isSpace last = false := plain last (by simp)
      have filled : ¬ (init ++ [last] ++ blanks).all isSpace = true := by simp [visible]
      have trimmed : (blanks.reverse ++ (init ++ [last]).reverse).dropWhile isSpace =
          (init ++ [last]).reverse :=
        dropWhile_run (fun c within => blank c (List.mem_reverse.mp within))
          (fun c here => by simp at here; rwa [← here])
      rw [closingName, if_neg filled, List.reverse_append, trimmed, List.reverse_reverse]

end

/-! ## Contents are cut into nested marks -/

section

variable {carries : List Char → List (String × String) → Prop} {chars : List Char}
  {elements : List Element} {words : String} {found : List Mark}

/-- The marks of contents nest, and they are found before whatever follows that is not text. -/
theorem Contains.exists_marks (contains : Contains carries chars elements words) :
    ∃ found, Nests carries found elements words ∧
      ∀ {rest : List Char} {later : List Mark}, (∀ c ∈ rest.head?, isPlain c = false) →
        Lexes rest later → Lexes (chars ++ rest) (found ++ later) := by
  induction contains with
  | nil => exact ⟨[], .nil, fun _ lexes => lexes⟩
  | silent silent _ ih =>
      obtain ⟨found, nests, lexes⟩ := ih
      refine ⟨found, nests, fun ends after => ?_⟩
      rw [List.append_assoc]
      exact .silent silent (lexes ends after)
  | @text run rest _ _ filled plain ends _ ih =>
      obtain ⟨found, nests, lexes⟩ := ih
      refine ⟨.text run :: found, .text nests, fun {more} _ ends' after => ?_⟩
      rw [List.append_assoc]
      refine .text filled plain ?_ (lexes ends' after)
      cases rest with
      | nil => exact ends'
      | cons c rest => exact ends
  | empty tag parts named carry _ ih =>
      obtain ⟨found, nests, lexes⟩ := ih
      refine ⟨_, .empty named carry nests, fun ends after => ?_⟩
      have marked := Lexes.tag tag (lexes ends after)
      rw [tagMark_empty parts] at marked
      simpa using marked
  | element tag parts opens named carry _ closing _ within later =>
      obtain ⟨innerMarks, inside, lexesInner⟩ := within
      obtain ⟨found, nests, lexes⟩ := later
      refine ⟨_, .element named carry inside nests, fun ends after => ?_⟩
      have repeated := (closingName_eq_iff parts.plain).mpr
        ⟨_, rfl, closing.blank, closing.named⟩
      have closed := Lexes.closing closing.text (lexes ends after)
      have marked := Lexes.tag tag (lexesInner (by rintro c ⟨⟩; rfl) closed)
      rw [tagMark_opening parts opens, repeated] at marked
      simpa using marked

/-- The text before a closing mark is cut on its own. -/
theorem Lexes.exists_before_closing {inner later : List Mark} {name : List Char}
    (lexes : Lexes chars (inner ++ .closing name :: later)) :
    ∃ within content rest, chars = within ++ '<' :: '/' :: (content ++ '>' :: rest) ∧
      Lexes within inner ∧ IsTagText none content ∧ closingName content = name ∧
        Lexes rest later := by
  generalize same : inner ++ .closing name :: later = found at lexes
  induction lexes generalizing inner with
  | nil => simp at same
  | silent silent _ ih =>
      obtain ⟨within, content, rest, rfl, inside, text, named, after⟩ := ih same
      exact ⟨_, content, rest, (List.append_assoc _ _ _).symm, .silent silent inside, text, named,
        after⟩
  | @tag tag _ _ start _ ih =>
      cases inner with
      | nil =>
          have opens := (List.cons.inj same).1
          rcases tagMark_cases tag with ⟨_, _, _, _, marked⟩ | ⟨_, _, _, _, _, marked⟩ <;>
            cases marked.symm.trans opens.symm
      | cons mark inner =>
          obtain ⟨rfl, behind⟩ := List.cons.inj same
          obtain ⟨within, content, rest, rfl, inside, text, named, after⟩ := ih behind
          exact ⟨_, content, rest, by simp, .tag start inside, text, named, after⟩
  | @closing tag rest _ closes lexes ih =>
      cases inner with
      | nil =>
          obtain ⟨named, rfl⟩ := List.cons.inj same
          exact ⟨[], tag, rest, rfl, .nil, closes, (Mark.closing.inj named).symm, lexes⟩
      | cons mark inner =>
          obtain ⟨rfl, behind⟩ := List.cons.inj same
          obtain ⟨within, content, rest, rfl, inside, text, named, after⟩ := ih behind
          exact ⟨_, content, rest, by simp, .closing closes inside, text, named, after⟩
  | @text run _ _ filled plain ends _ ih =>
      cases inner with
      | nil => cases (List.cons.inj same).1
      | cons mark inner =>
          obtain ⟨rfl, behind⟩ := List.cons.inj same
          obtain ⟨within, content, rest, rfl, inside, text, named, after⟩ := ih behind
          refine ⟨_, content, rest, (List.append_assoc _ _ _).symm, .text filled plain ?_ inside,
            text, named, after⟩
          cases within with
          | nil => exact nofun
          | cons c within => exact ends

/-- A text that is cut into nested marks is the text of contents. -/
theorem Lexes.contains (lexes : Lexes chars found) (nests : Nests carries found elements words) :
    Contains carries chars elements words := by
  induction sized : chars.length using Nat.strong_induction_on
    generalizing chars found elements words with
  | _ size ih =>
      -- by length: the contents of an element are cut on their own
      cases lexes with
      | nil =>
          cases nests
          exact .nil
      | silent silent later =>
          have := List.length_pos_iff.mpr silent.ne_nil
          rw [List.length_append] at sized
          exact .silent silent (ih _ (by omega) later nests rfl)
      | closing text later => cases nests
      | text filled plain ends later =>
          have := List.length_pos_iff.mpr filled
          rw [List.length_append] at sized
          cases nests with
          | text nests => exact .text filled plain ends (ih _ (by omega) later nests rfl)
      | @tag content rest _ start later =>
          simp only [List.length_cons, List.length_append] at sized
          rcases tagMark_cases content with
            ⟨name, attributes, parts, rfl, marked⟩ | ⟨name, attributes, parts, rfl, opens, marked⟩
          · rw [marked] at nests
            cases nests with
            | empty named carry nests =>
                exact .empty start parts named carry (ih _ (by omega) later nests rfl)
          · rw [marked] at nests
            cases nests with
            | element named carry within nests =>
                obtain ⟨inner, content, rest, rfl, inside, text, closes, after⟩ :=
                  later.exists_before_closing
                obtain ⟨blanks, rfl, blank, unnamed⟩ := (closingName_eq_iff parts.plain).mp closes
                simp only [List.length_cons, List.length_append] at sized
                exact .element start parts opens named carry (ih _ (by omega) inside within rfl)
                  ⟨text, blank, unnamed⟩ (ih _ (by omega) after nests rfl)

/-- A text has contents exactly where it is cut into nested marks. -/
theorem contains_iff : Contains carries chars elements words ↔
    ∃ found, Lexes chars found ∧ Nests carries found elements words := by
  constructor
  · intro contains
    obtain ⟨found, nests, lexes⟩ := contains.exists_marks
    have whole := lexes (fun _ none_ => absurd none_ (by simp)) .nil
    rw [List.append_nil, List.append_nil] at whole
    exact ⟨found, whole, nests⟩
  · rintro ⟨found, lexes, nests⟩
    exact lexes.contains nests

end

end FlatMessage.Xml
