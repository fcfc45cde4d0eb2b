import TokenNames.FileSystem
import TokenNames.TokensFile.Parse
import TokenNames.TokensFile.Render

/-!
# Tokens files on disk

## Loading and saving

Loading reads a file as text and parses it.  Saving renders a vocabulary first and
touches the file only when the whole text is there, so a vocabulary that cannot be
written leaves the file system as it was.

Loading takes the function that reads a text, because it needs no more than that of a
file system.
-/

namespace TokenNames
namespace TokensFile

inductive LoadError where
  | unreadable (path : String) (fault : FileFault)
  | malformed (error : ParseError)
deriving DecidableEq

namespace LoadError

def message : LoadError → String
  | .unreadable path _ => "cannot read '" ++ path ++ "'"
  | .malformed error => error.message

def causes : LoadError → List String
  | .unreadable _ fault => [fault.message]
  | .malformed error => error.causes

def line? : LoadError → Option Nat
  | .unreadable .. => none
  | .malformed error => some error.line

end LoadError

inductive SaveError where
  | refused (refusal : Refusal)
  | unwritable (path : String) (fault : FileFault)
deriving DecidableEq

namespace SaveError

def message : SaveError → String
  | .refused refusal => refusal.message
  | .unwritable path _ => "cannot write '" ++ path ++ "'"

def causes : SaveError → List String
  | .refused _ => []
  | .unwritable _ fault => [fault.message]

end SaveError

def load (readText : String → Except FileFault String) (path : String) :
    Logged (Except LoadError Table) := do
  Logged.emit (.readingTokensFile path)
  match readText path with
  | .error fault => return .error (.unreadable path fault)
  | .ok source =>
      let result ← parseLogged source
      return result.mapError .malformed

/-- Saves a vocabulary at a path and returns the file system after the attempt. -/
def save (fs : FileSystem) (path : String) (v : Names) :
    Logged (Except SaveError Unit × FileSystem) := do
  match render v with
  | .error refusal => return (.error (.refused refusal), fs)
  | .ok text =>
      Logged.emit (.writingTokensFile path text.utf8ByteSize)
      match fs.writeText path text with
      | .error fault => return (.error (.unwritable path fault), fs)
      | .ok fs => return (.ok (), fs)

/-!
# Outcomes

Each outcome with what leads to it.  A write is reported before it is tried.
-/

theorem load_of_unreadable {readText : String → Except FileFault String} {path : String}
    {fault : FileFault} (h : readText path = .error fault) :
    (load readText path).value = .error (.unreadable path fault) := by
  unfold load
  rw [h]
  rfl

theorem load_of_readable {readText : String → Except FileFault String} {path source : String}
    (h : readText path = .ok source) :
    (load readText path).value = (parse source).mapError .malformed := by
  unfold load
  rw [h]
  rfl

section Save

variable {fs : FileSystem} {path : String} {v : Names}

theorem save_of_refused {r : Refusal} (h : render v = .error r) :
    save fs path v = { value := (.error (.refused r), fs), events := [] } := by
  unfold save
  rw [h]
  rfl

theorem save_of_unwritable {text : String} {fault : FileFault} (h : render v = .ok text)
    (hwrite : fs.writeText path text = .error fault) :
    save fs path v =
      { value := (.error (.unwritable path fault), fs)
        events := [.writingTokensFile path text.utf8ByteSize] } := by
  unfold save
  rw [h]
  simp only [hwrite]
  rfl

theorem save_of_written {text : String} {fs' : FileSystem} (h : render v = .ok text)
    (hwrite : fs.writeText path text = .ok fs') :
    save fs path v =
      { value := (.ok (), fs')
        events := [.writingTokensFile path text.utf8ByteSize] } := by
  unfold save
  rw [h]
  simp only [hwrite]
  rfl

end Save

end TokensFile
end TokenNames
