import TokenNames.Proofs.FileSystem.Replacement
import TokenNames.Proofs.TokensFile.Writing
import TokenNames.TokensFile.Storage

/-!
# Saving a vocabulary

## All of the text or nothing

Saving renders first and writes afterwards.  A vocabulary that is refused is therefore never
written, not even in part, however many of its lines were rendered before the refused name.
A vocabulary that is saved replaces the file at the path, and loading the path gives the
table of its text.
-/

namespace TokenNames
namespace TokensFile

variable {fs : FileSystem} {path : String} {v : Names}

/-!
# Outcomes of saving
-/

theorem value_save_eq_ok_iff {fs' : FileSystem} :
    (save fs path v).value = (.ok (), fs') ↔
      exists text, render v = .ok text ∧
        fs.writeText path text = .ok fs' := by
  cases hrender : render v with
  | error r => simp [save_of_refused hrender]
  | ok text =>
      cases hwrite : fs.writeText path text with
      | error fault => simp [save_of_unwritable hrender hwrite, hwrite]
      | ok fs'' => simp [save_of_written hrender hwrite, hwrite]

/-!
# Loading what was saved
-/

theorem exists_table_of_render {text : String} (h : render v = .ok text) :
    exists table, parse text = .ok table := by
  rcases exists_table_of_textOf (writable_of_render h) with ⟨table, hparse, _⟩
  rw [← (render_eq_ok_iff.mp h).right] at hparse
  exact ⟨table, hparse⟩

theorem readText_of_written {text : String} {fs' : FileSystem}
    (h : fs.writeText path text = .ok fs') : fs'.readText path = .ok text :=
  FileSystem.readText_of_readBytes (FileSystem.replaces_of_writeText h).written

/-- A refused vocabulary leaves the file system and the events as they were.  A vocabulary
that is saved leaves its text at the path and nothing else changed, and it is loaded as the
table of that text. -/
theorem save_all_or_nothing (fs : FileSystem) (path : String) (v : Names) :
    (forall r, render v = .error r ->
      save fs path v =
        { value := (.error (.refused r), fs), events := [] }) ∧
    (forall fs', (save fs path v).value = (.ok (), fs') ->
      exists text table, render v = .ok text ∧
        fs.Replaces fs' path text.toUTF8 ∧
        (save fs path v).events =
          [.writingTokensFile path text.toUTF8.size] ∧
        parse text = .ok table ∧
        (load fs'.readText path).value = .ok table) ∧
    ((exists fs', (save fs path v).value = (.ok (), fs')) ↔
      (exists text, render v = .ok text) ∧ fs.Accepts path) := by
  refine ⟨fun r hr => save_of_refused hr, ?_, ?_⟩
  · intro fs' hsave
    rcases value_save_eq_ok_iff.mp hsave with ⟨text, hrender, hwrite⟩
    rcases exists_table_of_render hrender with ⟨table, hparse⟩
    refine ⟨text, table, hrender, FileSystem.replaces_of_writeText hwrite, ?_,
      hparse, ?_⟩
    · rw [save_of_written hrender hwrite]
      rfl
    · rw [load_of_readable (readText_of_written hwrite), hparse]
      rfl
  · simp only [value_save_eq_ok_iff]
    constructor
    · intro hsaved
      rcases hsaved with ⟨fs', text, hrender, hwrite⟩
      exact ⟨⟨text, hrender⟩, FileSystem.exists_writeText_iff.mp ⟨fs', hwrite⟩⟩
    · intro haccepted
      rcases haccepted with ⟨⟨text, hrender⟩, hpath⟩
      rcases FileSystem.exists_writeText_iff.mpr hpath with ⟨fs', hwrite⟩
      exact ⟨fs', text, hrender, hwrite⟩

theorem save_all_or_nothing_overwriting :
    exists fs fs' : FileSystem,
      fs.readBytes "d/E" = .ok "OLD=1\nOLDER=2\n".toUTF8 ∧
      (save fs "d/E" (Table.names { symbolicNames := #[none, some "A"] })).value =
        (.ok (), fs') ∧
      fs'.readBytes "d/E" = .ok "A=1\n".toUTF8 ∧
      (load fs'.readText "d/E").value =
        .ok { symbolicNames := #[none, some "A"] } ∧
      save fs' "d/E" (Table.names
          { literalNames := #[none, some "x"]
            symbolicNames := #[none, some "A"] }) =
        { value := (.error (.refused (.unquotedLiteral 1 "x")), fs')
          events := [] } := by
  have hrender : render (Table.names
      { symbolicNames := #[none, some "A"] }) = .ok "A=1\n" := by
    decide +kernel
  have hparse : parse "A=1\n" = .ok
      { symbolicNames := #[none, some "A"] } := by
    decide +kernel
  have hrefused : render (Table.names
      { literalNames := #[none, some "x"]
        symbolicNames := #[none, some "A"] }) =
          .error (.unquotedLiteral 1 "x") := by
    decide +kernel
  let fs : FileSystem := (FileSystem.empty.set ["d"] .directory).set ["E", "d"]
    (.file "OLD=1\nOLDER=2\n".toUTF8)
  have hpath : fs.target "d/E" = .ok ["E", "d"] := by
    decide +kernel
  have hnode : fs.node? ["E", "d"] = some (.file "OLD=1\nOLDER=2\n".toUTF8) :=
    FileSystem.node?_set_self _ _ _
  have haccepts : fs.Accepts "d/E" := by
    refine ⟨_, hpath, ?_⟩
    rw [hnode]
    simp
  rcases (save_all_or_nothing fs "d/E" _).2.2.mpr ⟨⟨_, hrender⟩, haccepts⟩ with
    ⟨fs', hsave⟩
  rcases (save_all_or_nothing fs "d/E" _).2.1 fs' hsave with
    ⟨text, table, htext, hreplaces, _, htable, hload⟩
  rw [hrender] at htext
  cases htext
  rw [hparse] at htable
  cases htable
  refine ⟨fs, fs', ?_, hsave, hreplaces.written, hload,
    (save_all_or_nothing fs' "d/E" _).1 _ hrefused⟩
  rw [FileSystem.readBytes_eq_ok_iff]
  exact ⟨_, FileSystem.locate_of_target hpath, hnode⟩

end TokensFile
end TokenNames
