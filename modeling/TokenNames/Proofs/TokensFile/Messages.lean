import TokenNames.TokensFile.Storage

/-!
# Messages

## What an error of a tokens file says

An error has a text, and there can be errors behind it, each with a text of its own.  The
texts are stated here constructor by constructor and word by word.  Only a type that is no
number and a file that cannot be read or written have an error behind them.
-/

namespace TokenNames

inductive FileFault.Says : FileFault -> String -> Prop where
  | notFound : Says .notFound "No such file or directory (os error 2)"
  | notDirectory : Says .notDirectory "Not a directory (os error 20)"
  | isDirectory : Says .isDirectory "Is a directory (os error 21)"
  | nameTooLong : Says .nameTooLong "File name too long (os error 36)"
  | nullInPath :
      Says .nullInPath "file name contained an unexpected NUL byte"
  | invalidText : Says .invalidText "stream did not contain valid UTF-8"
  | other (description : String) : Says (.other description) description

theorem FileFault.says_iff {fault : FileFault} {text : String} :
    fault.Says text ↔ text = fault.message := by
  constructor
  · intro h
    cases h <;> rfl
  · intro h
    rw [h]
    cases fault with
    | notFound => exact Says.notFound
    | notDirectory => exact Says.notDirectory
    | isDirectory => exact Says.isDirectory
    | nameTooLong => exact Says.nameTooLong
    | nullInPath => exact Says.nullInPath
    | invalidText => exact Says.invalidText
    | other description => exact Says.other description

namespace TokensFile

/-- The text of a fault, and the texts of the errors behind it. -/
inductive LineFault.Says : LineFault -> String -> List String -> Prop where
  | missingAssignment (text : String) :
      Says (.missingAssignment text)
        ("expected `name=type`, found `" ++ text ++ "`") []
  | emptyName : Says .emptyName "token name is empty" []
  | emptyType (value : String) :
      Says (.invalidType value .empty)
        ("invalid token type `" ++ value ++ "`")
        ["cannot parse integer from empty string"]
  | invalidDigit (value : String) :
      Says (.invalidType value .invalidDigit)
        ("invalid token type `" ++ value ++ "`")
        ["invalid digit found in string"]
  | outOfRange (value : String) :
      Says (.outOfRange value)
        ("token type " ++ value ++ " is outside 0..=65535") []

/-- The text of an error, and the texts of the errors behind it.  The text of a faulty line
begins with the number of the line. -/
inductive LoadError.Says : LoadError -> String -> List String -> Prop where
  | unreadable (path : String) {fault : FileFault} {cause : String} :
      fault.Says cause ->
      Says (.unreadable path fault) ("cannot read '" ++ path ++ "'") [cause]
  | malformed {e : ParseError} {text : String} {causes : List String} :
      e.fault.Says text causes ->
      Says (.malformed e)
        ("line " ++ Numeral.write e.line ++ ": " ++ text) causes

/-- The text of a refusal, which begins with the type of the refused name. -/
inductive Refusal.Says : Refusal -> String -> Prop where
  | unwritableType (t : TokenType) :
      Says (.unwritableType t)
        ("token type " ++ t.text ++ " has names but is outside 0..=65535")
  | unwritableName (t : TokenType) (name : String) :
      Says (.unwritableName t name)
        ("token type " ++ t.text ++ ": name " ++ Text.quoted name ++
          " has surrounding whitespace or a line break")
  | quotedSymbolic (t : TokenType) (name : String) :
      Says (.quotedSymbolic t name)
        ("token type " ++ t.text ++ ": symbolic name `" ++ name ++
          "` starts with `'`")
  | unquotedLiteral (t : TokenType) (name : String) :
      Says (.unquotedLiteral t name)
        ("token type " ++ t.text ++ ": literal name `" ++ name ++
          "` does not start with `'`")

inductive SaveError.Says : SaveError -> String -> List String -> Prop where
  | refused {r : Refusal} {text : String} :
      r.Says text -> Says (.refused r) text []
  | unwritable (path : String) {fault : FileFault} {cause : String} :
      fault.Says cause ->
      Says (.unwritable path fault) ("cannot write '" ++ path ++ "'") [cause]

/-!
# Faults of lines
-/

theorem append_maxFile {before after : String}
    (h : after = before ++ "65535") (text : String) :
    text ++ before ++ TokenType.maxFile.text = text ++ after := by
  have hlast : TokenType.maxFile.text = "65535" := by decide +kernel
  rw [hlast, h, String.append_assoc]

theorem message_outOfRange (value : String) :
    (LineFault.outOfRange value).message =
      "token type " ++ value ++ " is outside 0..=65535" :=
  append_maxFile rfl ("token type " ++ value)

theorem LineFault.says_message (line : Nat) (fault : LineFault) :
    fault.Says fault.message (ParseError.causes { line, fault }) := by
  cases fault with
  | missingAssignment text => exact Says.missingAssignment text
  | emptyName => exact Says.emptyName
  | invalidType value cause =>
      cases cause with
      | empty => exact Says.emptyType value
      | invalidDigit => exact Says.invalidDigit value
  | outOfRange value =>
      rw [message_outOfRange]
      exact Says.outOfRange value

theorem LineFault.Says.unique {fault : LineFault} {text text' : String}
    {causes causes' : List String} (h : fault.Says text causes)
    (h' : fault.Says text' causes') : text = text' ∧ causes = causes' := by
  cases h <;> cases h' <;> exact ⟨rfl, rfl⟩

/-!
# Refusals
-/

theorem message_unwritableType (t : TokenType) :
    (Refusal.unwritableType t).message =
      "token type " ++ t.text ++ " has names but is outside 0..=65535" :=
  append_maxFile rfl ("token type " ++ t.text)

theorem Refusal.says_iff {r : Refusal} {text : String} :
    r.Says text ↔ text = r.message := by
  constructor
  · intro h
    cases h with
    | unwritableType t => exact (message_unwritableType t).symm
    | unwritableName t name => rfl
    | quotedSymbolic t name => rfl
    | unquotedLiteral t name => rfl
  · intro h
    rw [h]
    cases r with
    | unwritableType t =>
        rw [message_unwritableType]
        exact Says.unwritableType t
    | unwritableName t name => exact Says.unwritableName t name
    | quotedSymbolic t name => exact Says.quotedSymbolic t name
    | unquotedLiteral t name => exact Says.unquotedLiteral t name

/-!
# Errors
-/

theorem LoadError.says_iff {e : LoadError} {text : String}
    {causes : List String} :
    e.Says text causes ↔ text = e.message ∧ causes = e.causes := by
  constructor
  · intro h
    cases h with
    | unreadable path hcause =>
        rw [FileFault.says_iff.mp hcause]
        exact ⟨rfl, rfl⟩
    | malformed hfault =>
        rename_i error text
        rcases hfault.unique (LineFault.says_message error.line error.fault)
          with ⟨htext, hcauses⟩
        rw [htext, hcauses]
        exact ⟨rfl, rfl⟩
  · intro h
    rw [h.left, h.right]
    cases e with
    | unreadable path fault =>
        exact Says.unreadable path (FileFault.says_iff.mpr rfl)
    | malformed error =>
        exact Says.malformed (LineFault.says_message error.line error.fault)

theorem SaveError.says_iff {e : SaveError} {text : String}
    {causes : List String} :
    e.Says text causes ↔ text = e.message ∧ causes = e.causes := by
  constructor
  · intro h
    cases h with
    | refused hrefusal =>
        rw [Refusal.says_iff.mp hrefusal]
        exact ⟨rfl, rfl⟩
    | unwritable path hcause =>
        rw [FileFault.says_iff.mp hcause]
        exact ⟨rfl, rfl⟩
  · intro h
    rw [h.left, h.right]
    cases e with
    | refused r => exact Says.refused (Refusal.says_iff.mpr rfl)
    | unwritable path fault =>
        exact Says.unwritable path (FileFault.says_iff.mpr rfl)

end TokensFile
end TokenNames
