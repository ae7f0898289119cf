import TennisAlerts.HostCore.InviteSecrets
import Mathlib.Data.List.Forall2
import Mathlib.Data.List.TakeWhile

/-!
# Spellings of invite codes

Every normal form is a code that can be generated, and generated codes are their own normal
form.  A spelling of a code has its parts in any letters that are those of the part in upper
case, with anything between the parts that holds no letter or digit in upper case.  All
spellings of a code have one normal form, and different normal forms have different messages
to hash.
-/

namespace TennisAlerts.HostCore

/-! ## Parts of a text -/

theorem partsFrom_gap {gap rest : List Char}
    (apart : ∀ character ∈ gap, isCodeChar character = false) :
    partsFrom [] (gap ++ rest) = partsFrom [] rest := by
  induction gap with
  | nil => rfl
  | cons character gap ih =>
      have first := apart character List.mem_cons_self
      have others := ih fun other member => apart other (List.mem_cons_of_mem character member)
      rw [List.cons_append, partsFrom, first, others]
      simp

/-- A word is read up to the characters between it and the next one. -/
theorem partsFrom_word_gap {word gap rest : List Char} (nonempty : word ≠ [])
    (letters : ∀ character ∈ word, isCodeChar character = true) (separated : gap ≠ [])
    (apart : ∀ character ∈ gap, isCodeChar character = false) :
    partsFrom [] (word ++ (gap ++ rest)) = word :: partsFrom [] rest := by
  cases gap with
  | nil => contradiction
  | cons character gap =>
      have first := apart character List.mem_cons_self
      have others : ∀ other ∈ gap, isCodeChar other = false :=
        fun other member => apart other (List.mem_cons_of_mem character member)
      rw [partsFrom_append letters, List.nil_append, List.cons_append, partsFrom, first,
        partsFrom_gap others]
      simp [nonempty]

/-- Characters behind the last word are dropped. -/
theorem partsFrom_end {gap : List Char} (apart : ∀ character ∈ gap, isCodeChar character = false)
    (part text : List Char) : partsFrom part (text ++ gap) = partsFrom part text := by
  induction text generalizing part with
  | nil =>
      cases gap with
      | nil => rfl
      | cons character gap =>
          have first := apart character List.mem_cons_self
          have others : partsFrom [] (gap ++ []) = partsFrom [] [] :=
            partsFrom_gap fun other member => apart other (List.mem_cons_of_mem character member)
          rw [List.append_nil] at others
          rw [List.nil_append, partsFrom.eq_def part (character :: gap)]
          dsimp only
          rw [first, others]
          simp [partsFrom]
  | cons character text ih => rw [List.cons_append, partsFrom, partsFrom, ih, ih]

/-- No blank belongs to a code. -/
theorem isCodeChar_of_pythonSpace {character : Char} (space : pythonSpace character = true) :
    isCodeChar character = false := by
  simp only [pythonSpace, Bool.or_eq_true, Bool.and_eq_true, decide_eq_true_eq] at space
  simp only [isCodeChar, Bool.or_eq_false_iff, Bool.and_eq_false_iff, decide_eq_false_iff_not,
    Char.le_def, UInt32.le_iff_toNat_le]
  have code : character.val.toNat = character.toNat := rfl
  have capitals : 'A'.val.toNat = 65 ∧ 'Z'.val.toNat = 90 := by decide
  have digits : '0'.val.toNat = 48 ∧ '9'.val.toNat = 57 := by decide
  omega

/-- Blanks around a text do not change its parts. -/
theorem partsFrom_strip (text : String) :
    partsFrom [] (strip text).toList = partsFrom [] text.toList := by
  rw [strip, String.toList_ofList]
  have front : partsFrom [] (text.toList.dropWhile pythonSpace) = partsFrom [] text.toList := by
    conv_rhs => rw [← List.takeWhile_append_dropWhile (p := pythonSpace) (l := text.toList)]
    rw [partsFrom_gap]
    intro character member
    exact isCodeChar_of_pythonSpace (List.mem_takeWhile_imp member)
  rw [← front]
  generalize text.toList.dropWhile pythonSpace = rest
  have whole : rest = (rest.reverse.dropWhile pythonSpace).reverse ++
      (rest.reverse.takeWhile pythonSpace).reverse := by
    rw [← List.reverse_append, List.takeWhile_append_dropWhile, List.reverse_reverse]
  conv_rhs => rw [whole]
  rw [partsFrom_end]
  intro character member
  exact isCodeChar_of_pythonSpace (List.mem_takeWhile_imp (List.mem_reverse.mp member))

/-! ## One normal form -/

namespace InviteLibrary

variable {library : InviteLibrary}

/-- Characters between the parts of a code: none of them makes a letter or digit in upper
case. -/
def Gap (library : InviteLibrary) (text : List Char) : Prop :=
  ∀ character ∈ text.flatMap library.upper, isCodeChar character = false

/-- The text spells the code: its parts in any case, with gaps around and between them. -/
def Spells (library : InviteLibrary) (choice : InviteChoice) (text : String) : Prop :=
  ∃ lead first gap scene gap' mascot gap'' suffix trail,
    text.toList = lead ++ first ++ gap ++ scene ++ gap' ++ mascot ++ gap'' ++ suffix ++ trail ∧
    [first, scene, mascot, suffix].map (·.flatMap library.upper) = choice.parts ∧
    library.Gap lead ∧ library.Gap trail ∧
    ∀ between ∈ [gap, gap', gap''], between ≠ [] ∧ library.Gap between

/-- The laws of normal forms. -/
structure OneNormalForm (library : InviteLibrary) : Prop where
  idempotent : ∀ value code, library.normalizeInviteCode value = some code →
    library.normalizeInviteCode code = some code
  generated : ∀ choice : InviteChoice, library.normalizeInviteCode choice.code = some choice.code
  spelled : ∀ choice text pepper, library.Spells choice text →
    library.normalizeInviteCode text = some choice.code ∧
      library.hashInviteCode text pepper = library.hashInviteCode choice.code pepper
  separated : ∀ value value' code code' pepper, library.normalizeInviteCode value = some code →
    library.normalizeInviteCode value' = some code' → code ≠ code' →
    library.hmacInput value pepper ≠ library.hmacInput value' pepper
  decrypted : ∀ nonce value code pepper, library.normalizeInviteCode value = some code →
    decryptInviteCode library (library.encryptInviteCode nonce value pepper) pepper = some code

theorem normalizeInviteCode_of_parts {choice : InviteChoice} {value : String}
    (parts : partsFrom [] (value.toList.flatMap library.upper) = choice.parts) :
    library.normalizeInviteCode value = some choice.code := by
  rw [normalizeInviteCode]
  apply HostCore.normalizeInviteCode_of_parts
  rw [partsFrom_strip, upperText, String.toList_ofList, parts]

/-- Letters of a code in either case are those of the code. -/
theorem upper_recased (lawful : library.Lawful) {word spelled : List Char}
    (letters : ∀ character ∈ word, isCodeChar character = true)
    (recased : List.Forall₂ (fun character other => other = character ∨
      'a' ≤ other ∧ other ≤ 'z' ∧ other.toUpper = character) word spelled) :
    spelled.flatMap library.upper = word := by
  induction recased with
  | nil => rfl
  | @cons character other word spelled same rest ih =>
      have others := ih fun letter member => letters letter (List.mem_cons_of_mem character member)
      rw [List.flatMap_cons, others]
      cases same with
      | inl same =>
          rw [same, lawful.upper_codeChar character (letters character List.mem_cons_self)]
          rfl
      | inr small =>
          rw [lawful.upper_small other small.1 small.2.1, small.2.2]
          rfl

theorem upper_letters (lawful : library.Lawful) {word : List Char}
    (letters : ∀ character ∈ word, isCodeChar character = true) :
    word.flatMap library.upper = word := by
  apply upper_recased lawful letters
  exact List.forall₂_same.mpr fun character _ => Or.inl rfl

/-- Upper case does not empty a gap. -/
theorem upper_gap_ne_nil (lawful : library.Lawful) {gap : List Char} (nonempty : gap ≠ []) :
    gap.flatMap library.upper ≠ [] := by
  cases gap with
  | nil => contradiction
  | cons character gap => simp [lawful.upper_ne_nil character]

/-- Every spelling of a code has this code as its normal form. -/
theorem normalizeInviteCode_of_spells (lawful : library.Lawful) {choice : InviteChoice}
    {text : String} (spells : library.Spells choice text) :
    library.normalizeInviteCode text = some choice.code := by
  obtain ⟨lead, first, gap, scene, gap', mascot, gap'', suffix, trail, whole, words, leading,
    trailing, between⟩ := spells
  have letters := choice.parts_letters
  simp only [← words, List.forall_mem_map, List.forall_mem_cons] at letters between
  obtain ⟨firstWord, sceneWord, mascotWord, suffixWord, -⟩ := letters
  obtain ⟨apart, apart', apart'', -⟩ := between
  apply normalizeInviteCode_of_parts
  rw [whole, ← words]
  simp only [List.flatMap_append, List.append_assoc]
  rw [partsFrom_gap leading,
    partsFrom_word_gap firstWord.1 firstWord.2 (upper_gap_ne_nil lawful apart.1) apart.2,
    partsFrom_word_gap sceneWord.1 sceneWord.2 (upper_gap_ne_nil lawful apart'.1) apart'.2,
    partsFrom_word_gap mascotWord.1 mascotWord.2 (upper_gap_ne_nil lawful apart''.1) apart''.2,
    partsFrom_end trailing, partsFrom_last suffixWord.1 suffixWord.2]
  rfl

/-- A generated code spells itself. -/
theorem spells_code (lawful : library.Lawful) (choice : InviteChoice) :
    library.Spells choice choice.code := by
  have letters := choice.parts_letters
  simp only [InviteChoice.parts, List.forall_mem_cons] at letters
  obtain ⟨first, scene, mascot, suffix, -⟩ := letters
  have hyphen : library.Gap ['-'] := by
    simp [Gap, lawful.upper_hyphen, isCodeChar]
  refine ⟨[], invitePrefix.toList, ['-'], choice.scene.toList, ['-'], choice.mascot.toList, ['-'],
    choice.suffix, [], ?_, ?_, by simp [Gap], by simp [Gap], by simp [hyphen]⟩
  · rw [InviteChoice.code, String.toList_ofList]
    simp [List.intercalate, List.intersperse]
  · simp only [List.map_cons, List.map_nil, upper_letters lawful first.2,
      upper_letters lawful scene.2, upper_letters lawful mascot.2, upper_letters lawful suffix.2]
    rfl

theorem fromUTF8_toByteArray (text : String) :
    String.fromUTF8? text.toByteArray = some text := by
  rw [String.fromUTF8?, dif_pos text.isValidUTF8]
  rfl

/-- Invite codes have one normal form. -/
theorem oneNormalForm (lawful : library.Lawful) : library.OneNormalForm where
  idempotent := by
    intro value code normalized
    obtain ⟨choice, rfl⟩ := exists_choice_of_normalizeInviteCode normalized
    exact normalizeInviteCode_of_spells lawful (spells_code lawful choice)
  generated := fun choice => normalizeInviteCode_of_spells lawful (spells_code lawful choice)
  spelled := by
    intro choice text pepper spells
    have spelling := normalizeInviteCode_of_spells lawful spells
    have itself := normalizeInviteCode_of_spells lawful (spells_code lawful choice)
    refine ⟨spelling, ?_⟩
    rw [hashInviteCode, hashInviteCode, hmacInput, hmacInput, spelling, itself]
  separated := by
    intro value value' code code' pepper normalized normalized' different same
    rw [hmacInput, hmacInput, normalized, normalized'] at same
    have bytes : code.toUTF8 = code'.toUTF8 := by simpa using same
    exact different (String.toByteArray_inj.mp bytes)
  decrypted := by
    intro nonce value code pepper normalized
    rw [encryptInviteCode, normalized]
    simp [decryptInviteCode, Option.filter, lawful.encrypt_ne_empty, lawful.decrypt_encrypt,
      fromUTF8_toByteArray]

/-! ### Some letters of other alphabets -/

/-- Upper case for letters of ASCII and for a few others that become letters of ASCII. -/
def upperLetter (character : Char) : List Char :=
  if character = 'ß' then ['S', 'S']
  else if character = 'ı' then ['I']
  else if character = 'ſ' then ['S']
  else if character = 'ﬁ' then ['F', 'I']
  else [character.toUpper]

/-- A library with a cipher that only keeps its texts behind a mark. -/
def plainLibrary : InviteLibrary where
  upper := upperLetter
  hexdigest _ := "8d4345a91e6e8a993285769adbfdd78a673aedff406c4c41fddaca2fd439b640"
  encrypt _ _ data := String.ofList ('g' :: data.data.toList.map fun byte => Char.ofNat byte.toNat)
  decrypt _ ciphertext :=
    some ⟨((ciphertext.toList.drop 1).map fun character => UInt8.ofNat character.toNat).toArray⟩

theorem upperLetter_ascii {character : Char} (ascii : character.toNat < 128) :
    upperLetter character = [character.toUpper] := by
  have apart : ∀ other : Char, 128 ≤ other.toNat → character ≠ other := by
    rintro other large rfl
    omega
  rw [upperLetter, if_neg (apart _ (by decide)), if_neg (apart _ (by decide)),
    if_neg (apart _ (by decide)), if_neg (apart _ (by decide))]

theorem plainLibrary_lawful : plainLibrary.Lawful where
  upper_codeChar := by
    intro character isCode
    have range : 48 ≤ character.toNat ∧ character.toNat ≤ 90 := by
      simp only [isCodeChar, Bool.or_eq_true, Bool.and_eq_true, decide_eq_true_eq, Char.le_def,
        UInt32.le_iff_toNat_le] at isCode
      have code : character.val.toNat = character.toNat := rfl
      have capitals : 'A'.val.toNat = 65 ∧ 'Z'.val.toNat = 90 := by decide
      have digits : '0'.val.toNat = 48 ∧ '9'.val.toNat = 57 := by decide
      omega
    have same : character.toUpper = character := by
      have large : ¬ ('a'.val ≤ character.val ∧ character.val ≤ 'z'.val) := by
        rintro ⟨low, -⟩
        have bound : 97 ≤ character.toNat := UInt32.le_iff_toNat_le.mp low
        omega
      exact dif_neg large
    have letter : upperLetter character = [character.toUpper] := upperLetter_ascii (by omega)
    rw [same] at letter
    exact letter
  upper_hyphen := by decide
  upper_small := by
    intro character low high
    have bound : character.toNat ≤ 122 := UInt32.le_iff_toNat_le.mp high
    exact upperLetter_ascii (by omega)
  upper_ne_nil := by
    intro character
    simp only [plainLibrary, upperLetter]
    repeat' split
    all_goals simp
  decrypt_encrypt := by
    intro key nonce data
    have bytes : ∀ byte : UInt8, UInt8.ofNat (Char.ofNat byte.toNat).toNat = byte := by
      intro byte
      have small : byte.toNat < 256 := byte.toNat_lt
      have valid : byte.toNat.isValidChar := Or.inl (by omega)
      have code : (Char.ofNat byte.toNat).toNat = byte.toNat := by
        rw [Char.ofNat, dif_pos valid]
        rfl
      rw [code, UInt8.ofNat_toNat]
    simp [plainLibrary, bytes, Function.comp_def]
  encrypt_ne_empty := by
    intro key nonce data empty
    have characters := congrArg String.toList empty
    simp [plainLibrary] at characters

theorem plainLibrary_oneNormalForm : plainLibrary.OneNormalForm :=
  oneNormalForm plainLibrary_lawful

end InviteLibrary

end TennisAlerts.HostCore
