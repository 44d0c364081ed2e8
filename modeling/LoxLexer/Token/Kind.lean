/-
# Kinds of tokens

A token is a symbol, a name, a literal, a keyword or the end of the file. Symbols
and keywords are closed lists. Every kind has a name, which is how it is
displayed, and different kinds have different names.

A keyword table says which words are not identifiers and what they are instead.
The language has a table of its own, and a scan may use any other. A word has
one kind at a time: entering it again replaces its kind.
-/

namespace LoxLexer

/-- The operators and punctuation marks. -/
inductive Symbol
  | leftParen | rightParen | leftBrace | rightBrace | comma | dot | minus | plus
  | semicolon | slash | star
  | bang | bangEqual | equal | equalEqual | greater | greaterEqual | less | lessEqual
  deriving DecidableEq

namespace Symbol

/-- All symbols. -/
def all : List Symbol :=
  [leftParen, rightParen, leftBrace, rightBrace, comma, dot, minus, plus, semicolon, slash, star,
   bang, bangEqual, equal, equalEqual, greater, greaterEqual, less, lessEqual]

/-- How a symbol is written in a source text. -/
def text : Symbol → List Char
  | leftParen => ['(']
  | rightParen => [')']
  | leftBrace => ['\x7b']
  | rightBrace => ['\x7d']
  | comma => [',']
  | dot => ['.']
  | minus => ['-']
  | plus => ['+']
  | semicolon => [';']
  | slash => ['/']
  | star => ['*']
  | bang => ['!']
  | bangEqual => ['!', '=']
  | equal => ['=']
  | equalEqual => ['=', '=']
  | greater => ['>']
  | greaterEqual => ['>', '=']
  | less => ['<']
  | lessEqual => ['<', '=']

/-- The name under which a symbol is displayed. -/
def name : Symbol → String
  | leftParen => "LeftParen"
  | rightParen => "RightParen"
  | leftBrace => "LeftBrace"
  | rightBrace => "RightBrace"
  | comma => "Comma"
  | dot => "Dot"
  | minus => "Minus"
  | plus => "Plus"
  | semicolon => "Semicolon"
  | slash => "Slash"
  | star => "Star"
  | bang => "Bang"
  | bangEqual => "BangEqual"
  | equal => "Equal"
  | equalEqual => "EqualEqual"
  | greater => "Greater"
  | greaterEqual => "GreaterEqual"
  | less => "Less"
  | lessEqual => "LessEqual"

/-- The symbol that is written so. -/
def ofText? (text : List Char) : Option Symbol := all.find? fun symbol => symbol.text = text

/-- The longest symbol that a text begins with. No symbol is longer than two characters. -/
def longestPrefix? (text : List Char) : Option Symbol :=
  (ofText? (text.take 2)).or (ofText? (text.take 1))

end Symbol

/-- The reserved words of the language. -/
inductive Keyword
  | andWord | classWord | elseWord | falseWord | forWord | funWord | ifWord | nilWord | orWord
  | printWord | returnWord | superWord | thisWord | trueWord | varWord | whileWord
  deriving DecidableEq

namespace Keyword

/-- All keywords. -/
def all : List Keyword :=
  [andWord, classWord, elseWord, falseWord, forWord, funWord, ifWord, nilWord, orWord,
   printWord, returnWord, superWord, thisWord, trueWord, varWord, whileWord]

/-- How a keyword is written in a source text. -/
def word : Keyword → String
  | andWord => "and"
  | classWord => "class"
  | elseWord => "else"
  | falseWord => "false"
  | forWord => "for"
  | funWord => "fun"
  | ifWord => "if"
  | nilWord => "nil"
  | orWord => "or"
  | printWord => "print"
  | returnWord => "return"
  | superWord => "super"
  | thisWord => "this"
  | trueWord => "true"
  | varWord => "var"
  | whileWord => "while"

/-- The name under which a keyword is displayed. -/
def name : Keyword → String
  | andWord => "And"
  | classWord => "Class"
  | elseWord => "Else"
  | falseWord => "False"
  | forWord => "For"
  | funWord => "Fun"
  | ifWord => "If"
  | nilWord => "Nil"
  | orWord => "Or"
  | printWord => "Print"
  | returnWord => "Return"
  | superWord => "Super"
  | thisWord => "This"
  | trueWord => "True"
  | varWord => "Var"
  | whileWord => "While"

end Keyword

/-- What a token is. -/
inductive TokenKind
  | symbol (symbol : Symbol)
  | identifier
  | string
  | number
  | keyword (keyword : Keyword)
  | endOfFile
  deriving DecidableEq

namespace TokenKind

/-- All kinds. -/
def all : List TokenKind :=
  Symbol.all.map symbol ++ [identifier, string, number] ++ Keyword.all.map keyword ++ [endOfFile]

/-- The name under which a kind is displayed. -/
def name : TokenKind → String
  | symbol mark => mark.name
  | identifier => "Identifier"
  | string => "String"
  | number => "Number"
  | keyword reserved => reserved.name
  | endOfFile => "EOF"

/-- The kind with the given name. -/
def ofName? (name : String) : Option TokenKind := all.find? fun kind => kind.name = name

/-- Is this the kind of a reserved word? -/
def isKeyword : TokenKind → Bool
  | keyword _ => true
  | _ => false

end TokenKind

/-! ## Keyword tables -/

/-- Words with their kinds. The latest entry of a word counts. -/
structure KeywordTable where
  /-- The entries, the latest one first. -/
  entries : List (String × TokenKind)

namespace KeywordTable

/-- The table without words. -/
def empty : KeywordTable := ⟨[]⟩

/-- Enters a word with its kind. -/
def insert (table : KeywordTable) (word : String) (kind : TokenKind) : KeywordTable :=
  ⟨(word, kind) :: table.entries⟩

/-- The table that arises from entering pairs one after another. -/
def ofList (pairs : List (String × TokenKind)) : KeywordTable :=
  pairs.foldl (fun table (word, kind) => table.insert word kind) empty

/-- The kind of a word that is in the table. -/
def find? (table : KeywordTable) (word : String) : Option TokenKind := table.entries.lookup word

/-- The kind of any word: one that is not in the table is an identifier. -/
def kindOf (table : KeywordTable) (word : String) : TokenKind :=
  (table.find? word).getD .identifier

/-- A word that is no identifier has its kind from the table. -/
theorem kindOf_eq_iff {table : KeywordTable} {word : String} {kind : TokenKind}
    (named : kind ≠ .identifier) : table.kindOf word = kind ↔ table.find? word = some kind := by
  unfold kindOf
  cases table.find? word <;> simp [named.symm]

/-- A word is the end of the file only if the table says so. -/
theorem kindOf_eq_endOfFile_iff {table : KeywordTable} {word : String} :
    table.kindOf word = .endOfFile ↔ table.find? word = some .endOfFile :=
  kindOf_eq_iff TokenKind.noConfusion

/-- The reserved words of the language. -/
def builtin : KeywordTable :=
  ofList (Keyword.all.map fun reserved => (reserved.word, .keyword reserved))

/-- What the language reserves are keywords. -/
theorem exists_keyword_of_find?_builtin {word : String} {kind : TokenKind}
    (found : builtin.find? word = some kind) : ∃ reserved, kind = .keyword reserved := by
  obtain ⟨before, later, entries, -⟩ := List.lookup_eq_some_iff.mp found
  have listed : builtin.entries =
      (Keyword.all.map fun reserved => (reserved.word, TokenKind.keyword reserved)).reverse := rfl
  have member : (word, kind) ∈ builtin.entries := by simp [entries]
  rw [listed, List.mem_reverse, List.mem_map] at member
  obtain ⟨reserved, -, same⟩ := member
  exact ⟨reserved, (Prod.mk.inj same).2.symm⟩

/-- No reserved word is the end of the file. -/
theorem find?_builtin_ne_endOfFile (word : String) : builtin.find? word ≠ some .endOfFile := by
  intro found
  obtain ⟨reserved, same⟩ := exists_keyword_of_find?_builtin found
  contradiction

/-- No reserved word is a number. -/
theorem find?_builtin_ne_number (word : String) : builtin.find? word ≠ some .number := by
  intro found
  obtain ⟨reserved, same⟩ := exists_keyword_of_find?_builtin found
  contradiction

end KeywordTable

end LoxLexer
