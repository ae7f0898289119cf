import Mathlib.Data.List.Basic

/-!
# Invite codes

The vocabulary of `domain.py`, the codes that `generate_invite_code` draws from it
and the normal form of `normalize_invite_code`.
-/

namespace TennisAlerts.HostCore

def invitePrefix : String :=
  "ACE"

def inviteAlphabet : String :=
  "23456789ABCDEFGHJKLMNPQRSTUVWXYZ"

def inviteScenes : List String :=
  ["SUNNY", "BREEZY", "CLOUD", "MOON", "STAR", "COMET", "AURORA", "OCEAN", "RIVER", "WAVE",
    "TIDE", "CORAL", "FOREST", "CEDAR", "MAPLE", "BAMBOO", "MEADOW", "GARDEN", "BLOOM", "PEACH",
    "MANGO", "LEMON", "BERRY", "COCOA", "HONEY", "MINT", "LATTE", "MOCHI", "COOKIE", "JELLY",
    "SUGAR", "SPICE", "RALLY", "SERVE", "VOLLEY", "SMASH", "SLICE", "SPIN", "LOB", "COURT", "NET",
    "BASELINE", "MATCH", "SET", "GAME", "BREAK", "FLASH", "TURBO", "ROCKET", "NOVA", "PIXEL",
    "NEON", "MAGIC", "LUCKY", "HAPPY", "BRAVE", "QUICK", "CHILL", "GLOW", "DREAM", "PARTY",
    "FIESTA", "SUNSET", "SUNRISE"]

def inviteMascots : List String :=
  ["PANDA", "OTTER", "TIGER", "LION", "FOX", "WOLF", "BEAR", "KOALA", "RABBIT", "BUNNY", "DEER",
    "MOOSE", "HORSE", "ZEBRA", "CAMEL", "LLAMA", "ALPACA", "MONKEY", "LEMUR", "SLOTH", "BADGER",
    "BEAVER", "FERRET", "HEDGEHOG", "RACCOON", "SEAL", "DOLPHIN", "WHALE", "SHARK", "TURTLE",
    "PENGUIN", "PUFFIN", "EAGLE", "FALCON", "OWL", "ROBIN", "SPARROW", "PARROT", "TOUCAN", "SWAN",
    "DUCK", "GOOSE", "CRANE", "HERON", "FLAMINGO", "PEACOCK", "GECKO", "IGUANA", "COBRA",
    "DRAGON", "PHOENIX", "UNICORN", "KITTEN", "PUPPY", "HAMSTER", "CHINCHILLA", "BISON", "YAK",
    "ANT", "BEE", "BUTTERFLY", "FIREFLY", "LADYBUG", "MANTIS"]

/-- A character that does not separate the parts of a code. -/
def isCodeChar (character : Char) : Bool :=
  ('A' ≤ character && character ≤ 'Z') || ('0' ≤ character && character ≤ '9')

/-- The parts of a text, from the part read so far: `re.split` without the empty
strings. -/
def partsFrom (part : List Char) : List Char → List (List Char)
  | [] => if part = [] then [] else [part]
  | character :: rest =>
      if isCodeChar character then partsFrom (part ++ [character]) rest
      else (if part = [] then [] else [part]) ++ partsFrom [] rest

/-- `normalize_invite_code` of a text in upper case, or `none` where it raises. -/
def normalizeInviteCode (text : String) : Option String :=
  match partsFrom [] text.toList with
  | [first, scene, mascot, suffix] =>
      if String.ofList first = invitePrefix ∧ String.ofList scene ∈ inviteScenes ∧
          String.ofList mascot ∈ inviteMascots ∧ suffix.length = 6 ∧
          suffix.all (inviteAlphabet.toList.contains ·) then
        some (String.ofList (List.intercalate ['-'] [first, scene, mascot, suffix]))
      else none
  | _ => none

/-- The choices of `generate_invite_code`. -/
structure InviteChoice where
  scene : String
  mascot : String
  suffix : List Char
  fromScenes : scene ∈ inviteScenes
  fromMascots : mascot ∈ inviteMascots
  length_suffix : suffix.length = 6
  fromAlphabet : ∀ character ∈ suffix, character ∈ inviteAlphabet.toList

/-- `generate_invite_code`. -/
def InviteChoice.code (choice : InviteChoice) : String :=
  String.ofList (List.intercalate ['-']
    [invitePrefix.toList, choice.scene.toList, choice.mascot.toList, choice.suffix])

theorem partsFrom_append {word rest : List Char}
    (letters : ∀ character ∈ word, isCodeChar character = true) :
    ∀ part, partsFrom part (word ++ rest) = partsFrom (part ++ word) rest := by
  induction word with
  | nil => simp
  | cons character word ih =>
      intro part
      have first := letters character List.mem_cons_self
      have others := ih fun other member => letters other (List.mem_cons_of_mem character member)
      rw [List.cons_append, partsFrom, if_pos first, others]
      simp

/-- A word is read up to its separator. -/
theorem partsFrom_word {word rest : List Char} (nonempty : word ≠ [])
    (letters : ∀ character ∈ word, isCodeChar character = true) :
    partsFrom [] (word ++ '-' :: rest) = word :: partsFrom [] rest := by
  have separator : isCodeChar '-' = false := by decide
  rw [partsFrom_append letters, List.nil_append, partsFrom, separator]
  simp [nonempty]

theorem partsFrom_last {word : List Char} (nonempty : word ≠ [])
    (letters : ∀ character ∈ word, isCodeChar character = true) :
    partsFrom [] word = [word] := by
  have whole : partsFrom [] (word ++ []) = partsFrom ([] ++ word) [] :=
    partsFrom_append letters []
  simpa [partsFrom, nonempty] using whole

/-- Every word of a vocabulary can be a part of a code. -/
theorem letters_of_all {words : List String}
    (checked : words.all (fun word => !word.toList.isEmpty && word.toList.all isCodeChar) = true) :
    ∀ word ∈ words, word.toList ≠ [] ∧
      ∀ character ∈ word.toList, isCodeChar character = true := by
  intro word member
  have holds := List.all_eq_true.mp checked word member
  simpa using holds

theorem inviteScenes_letters : ∀ scene ∈ inviteScenes, scene.toList ≠ [] ∧
    ∀ character ∈ scene.toList, isCodeChar character = true :=
  letters_of_all (by decide)

theorem inviteMascots_letters : ∀ mascot ∈ inviteMascots, mascot.toList ≠ [] ∧
    ∀ character ∈ mascot.toList, isCodeChar character = true :=
  letters_of_all (by decide)

theorem inviteAlphabet_letters :
    ∀ character ∈ inviteAlphabet.toList, isCodeChar character = true :=
  (letters_of_all (show [inviteAlphabet].all _ = true by decide) inviteAlphabet
    (by simp)).2

theorem invitePrefix_letters : invitePrefix.toList ≠ [] ∧
    ∀ character ∈ invitePrefix.toList, isCodeChar character = true :=
  letters_of_all (show [invitePrefix].all _ = true by decide) invitePrefix (by simp)

namespace InviteChoice

/-- The parts of a generated code. -/
def parts (choice : InviteChoice) : List (List Char) :=
  [invitePrefix.toList, choice.scene.toList, choice.mascot.toList, choice.suffix]

/-- Every part of a generated code is a word. -/
theorem parts_letters (choice : InviteChoice) : ∀ part ∈ choice.parts,
    part ≠ [] ∧ ∀ character ∈ part, isCodeChar character = true := by
  obtain ⟨scene, mascot, suffix, fromScenes, fromMascots, length, fromAlphabet⟩ := choice
  have suffixLetters : ∀ character ∈ suffix, isCodeChar character = true :=
    fun character member => inviteAlphabet_letters character (fromAlphabet character member)
  have suffixNonempty : suffix ≠ [] := by
    rintro rfl
    cases length
  simp only [parts, List.forall_mem_cons]
  exact ⟨invitePrefix_letters, inviteScenes_letters scene fromScenes,
    inviteMascots_letters mascot fromMascots, ⟨suffixNonempty, suffixLetters⟩, by simp⟩

end InviteChoice

/-- A text with the parts of a generated code has this code as its normal form. -/
theorem normalizeInviteCode_of_parts {choice : InviteChoice} {text : String}
    (parts : partsFrom [] text.toList = choice.parts) :
    normalizeInviteCode text = some choice.code := by
  obtain ⟨scene, mascot, suffix, fromScenes, fromMascots, length, fromAlphabet⟩ := choice
  unfold normalizeInviteCode InviteChoice.code
  rw [parts, InviteChoice.parts]
  simpa [fromScenes, fromMascots, length] using fromAlphabet

/-- Every normal form is a code that can be generated. -/
theorem exists_choice_of_normalizeInviteCode {text code : String}
    (normalized : normalizeInviteCode text = some code) :
    ∃ choice : InviteChoice, choice.code = code := by
  unfold normalizeInviteCode at normalized
  split at normalized
  · next first scene mascot suffix parts =>
      split at normalized
      · next checked =>
          obtain ⟨isPrefix, fromScenes, fromMascots, length, fromAlphabet⟩ := checked
          have letters : ∀ character ∈ suffix, character ∈ inviteAlphabet.toList := by
            simpa using fromAlphabet
          refine ⟨⟨_, _, suffix, fromScenes, fromMascots, length, letters⟩, ?_⟩
          rw [← Option.some.inj normalized, InviteChoice.code, ← isPrefix]
          simp only [String.toList_ofList]
      · cases normalized
  · cases normalized

/-- Generated codes are in normal form. -/
theorem normalizeInviteCode_code (choice : InviteChoice) :
    normalizeInviteCode choice.code = some choice.code := by
  apply normalizeInviteCode_of_parts
  have letters := choice.parts_letters
  simp only [InviteChoice.parts, List.forall_mem_cons] at letters
  obtain ⟨first, scene, mascot, suffix, -⟩ := letters
  have text : choice.code.toList = invitePrefix.toList ++
      '-' :: (choice.scene.toList ++ '-' :: (choice.mascot.toList ++ '-' :: choice.suffix)) := by
    rw [InviteChoice.code, String.toList_ofList]
    simp [List.intercalate, List.intersperse]
  rw [text, partsFrom_word first.1 first.2, partsFrom_word scene.1 scene.2,
    partsFrom_word mascot.1 mascot.2, partsFrom_last suffix.1 suffix.2, InviteChoice.parts]

end TennisAlerts.HostCore
