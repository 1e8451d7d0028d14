import SchemaCase.Name.EndingRule
import SchemaCase.Text.Alphanumeric
import SchemaCase.Text.Lowercase

namespace SchemaCase

inductive Inflection
  | leave
  | plural
  | singular
  deriving DecidableEq, Repr

namespace Inflection

open Name Letters EndingRule

def uncountables : List Text :=
  ["equipment", "fish", "information", "jeans", "money", "rice", "series", "sheep",
    "species"].map String.toList

private def consonants : List Letters :=
  [[.unlike "aeiouy".toList], spell "qu"]

private def notF : List Letters :=
  [[.unlike "f".toList]]

/-- The first letter decides by its case which rule is meant, the others are free. -/
private def kine (first : Char) : Letters :=
  [.among [first], .among ['i', 'I'], .among ['n', 'N'], .among ['e', 'E']]

private def cow (first : Char) : Letters :=
  [.among [first], .among ['o', 'O'], .among ['w', 'W']]

def pluralRules : List EndingRule :=
  [ending ["z"] ["ombies"] "ombies",
    ending ["z"] ["ombie"] "ombies",
    ⟨.ending, [[]], [kine 'k'], "kine".toList⟩,
    ⟨.ending, [[]], [kine 'K'], "Kine".toList⟩,
    ⟨.ending, [[]], [cow 'c'], "kine".toList⟩,
    ⟨.ending, [[]], [cow 'C'], "Kine".toList⟩,
    ending ["m"] ["oves"] "oves",
    ending ["m"] ["ove"] "oves",
    ending ["s"] ["exes"] "exes",
    ending ["s"] ["ex"] "exes",
    ending ["c"] ["hildren"] "hildren",
    ending ["c"] ["hild"] "hildren",
    ending ["h"] ["umans"] "umans",
    ending ["h"] ["uman"] "umans",
    ending ["m"] ["en"] "en",
    ending ["m"] ["an"] "en",
    ending ["p"] ["eople"] "eople",
    ending ["p"] ["erson"] "eople",
    ending ["quiz"] [""] "zes",
    whole ["oxen"] [""] "",
    whole ["ox"] [""] "en",
    ending ["m", "l"] ["ice"] "ice",
    ending ["m", "l"] ["ouse"] "ice",
    ending ["passer"] ["sby", "by"] "sby",
    ending ["matr", "vert", "ind"] ["ix", "ex"] "ices",
    ending ["x", "ch", "ss", "sh"] [""] "es",
    ⟨.ending, consonants, [spell "y"], "ies".toList⟩,
    ending ["hive"] [""] "s",
    ending ["l", "r"] ["f"] "ves",
    ⟨.ending, notF, [spell "fe"], "ves".toList⟩,
    ending [""] ["sis"] "ses",
    ending ["t", "i"] ["a"] "a",
    ending ["t", "i"] ["um"] "a",
    ending ["buffal", "potat", "tomat"] ["o"] "oes",
    ending ["bu"] ["s"] "ses",
    ending ["alias", "status"] [""] "es",
    ending ["octop", "vir"] ["i"] "i",
    ending ["octop", "vir"] ["us"] "i",
    whole ["ax", "test"] ["is"] "es",
    ending [""] ["s"] "s",
    ending [""] [""] "s"]

def singularRules : List EndingRule :=
  [ending ["z"] ["ombies"] "ombie",
    ⟨.ending, [[]], [kine 'k'], "cow".toList⟩,
    ⟨.ending, [[]], [kine 'K'], "Cow".toList⟩,
    ending ["m"] ["oves"] "ove",
    ending ["s"] ["exes"] "ex",
    ending ["c"] ["hildren"] "hild",
    ending ["h"] ["umans"] "uman",
    ending ["m"] ["en"] "an",
    ending ["p"] ["eople"] "erson",
    ending ["database"] ["s"] "",
    ending ["quiz"] ["zes"] "",
    ending ["matr"] ["ices"] "ix",
    ending ["vert", "ind"] ["ices"] "ex",
    ending ["passer"] ["sby"] "by",
    opening ["ox"] ["en"] "",
    ending ["alias", "status"] ["es", ""] "",
    ending ["octop", "vir"] ["us", "i"] "us",
    whole ["a"] ["xis", "xes"] "xis",
    ending ["cris", "test"] ["is", "es"] "is",
    ending ["shoe"] ["s"] "",
    ending ["o"] ["es"] "",
    ending ["bus"] ["es", ""] "",
    ending ["m", "l"] ["ice"] "ouse",
    ending ["x", "ch", "ss", "sh"] ["es"] "",
    ending ["m"] ["ovies"] "ovie",
    ending ["s"] ["eries"] "eries",
    ⟨.ending, consonants, [spell "ies"], "y".toList⟩,
    ending ["l", "r"] ["ves"] "f",
    ending ["tive"] ["s"] "",
    ending ["hive"] ["s"] "",
    ⟨.ending, notF, [spell "ves"], "fe".toList⟩,
    ending ["t"] ["hesis", "heses"] "hesis",
    ending ["s"] ["ynopsis", "ynopses"] "ynopsis",
    ending ["p"] ["rognosis", "rognoses"] "rognosis",
    ending ["p"] ["arenthesis", "arentheses"] "arenthesis",
    ending ["d"] ["iagnosis", "iagnoses"] "iagnosis",
    ending ["b"] ["asis", "ases"] "asis",
    ending ["a"] ["nalysis", "nalyses"] "nalysis",
    ending ["t", "i"] ["a"] "um",
    ending ["n"] ["ews"] "ews",
    ending ["ss"] [""] "",
    ending [""] ["s"] ""]

def changeBy (rules : List EndingRule) (word : Text) : Text :=
  (rules.findSome? (·.inflect? word)).getD word

def pluralize (word : Text) : Text :=
  if word.isEmpty || uncountables.contains (Text.lower word) then word
  else changeBy pluralRules word

/-- The last word of a text is `word`, in any mixture of capitals and small letters. -/
def endsInWord (word text : Text) : Bool :=
  let start := text.length - word.length
  (text.drop start).map foldLetter == word && !(text.take start).getLast?.any Text.isWordChar

def singularize (word : Text) : Text :=
  if uncountables.any (endsInWord · word) then word else changeBy singularRules word

def apply : Inflection → Text → Text
  | leave => id
  | plural => pluralize
  | singular => singularize

end Inflection

end SchemaCase
