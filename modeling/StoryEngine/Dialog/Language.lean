import StoryEngine.Json.Decode
import StoryEngine.Text.Letter
import StoryEngine.Text.LetterCase
import StoryEngine.Text.Numeral
import StoryEngine.Text.Split

/-! # Foreign languages

A language replaces words. The core of a word reaches from its first to its last letter or digit;
what stands around it is kept. The dictionary is asked for the core in small letters, and
a replacement takes over a capital at the start.
-/

namespace StoryEngine

set_option autoImplicit false

open Text (isAlphanumeric isUppercase lowerChars upperChar cutAll)

/-- Whoever is fluent up to the threshold understands the language. -/
structure Language where
  threshold : Nat
  dictionary : StringMap String
deriving DecidableEq

namespace Language

/-- The parts of a word before, in and after its core. -/
def wordParts (word : List Char) : List Char × List Char × List Char :=
  let front := word.takeWhile fun c => !isAlphanumeric c
  let rest := word.dropWhile fun c => !isAlphanumeric c
  let core := (rest.reverse.dropWhile fun c => !isAlphanumeric c).reverse
  (front, core, rest.drop core.length)

def capitalize : List Char → List Char
  | [] => []
  | c :: cs => upperChar c ++ cs

def lookup? (language : Language) (core : List Char) : Option (List Char) :=
  (language.dictionary.get? (.ofList (lowerChars core))).map String.toList

def translateWord (language : Language) (word : List Char) : List Char :=
  let (front, core, back) := wordParts word
  match core, language.lookup? core with
  | [], _ => word
  | _, none => word
  | c :: _, some foreign => front ++ (if isUppercase c then capitalize foreign else foreign) ++ back

def translateChars (language : Language) (line : List Char) : List Char :=
  [' '].intercalate ((cutAll [' '] line).map language.translateWord)

def translate (language : Language) (line : String) : String :=
  .ofList (language.translateChars line.toList)

def ofJson? (v : Json) : Option Language := do
  match ← v.record? ["threshold", "dictionary"] with
  | [threshold, dictionary] =>
    let threshold ← Json.required (Json.natBelow? Text.Numeral.count32) threshold
    let dictionary ← Json.withDefault (Json.map? Json.text?) ∅ dictionary
    return ⟨threshold, dictionary⟩
  | _ => none

end Language

abbrev LanguageTable := StringMap Language

namespace LanguageTable

def ofJson? (v : Json) : Option LanguageTable := v.map? Language.ofJson?

def parse? (content : String) : Option LanguageTable := (Json.parse? content).bind ofJson?

end LanguageTable

end StoryEngine
