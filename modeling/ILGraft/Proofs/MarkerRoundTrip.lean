import ILGraft.Proofs.MarkerText
import ILGraft.Snippet

/-!
# Markers written and read again

A path that was read from a marker is written with its backslashes doubled, as quoted text is for
the assembler, while reading takes a path as it stands. What is written for a path is therefore
read as that path exactly if it holds no backslash. The source line survives, unless it is the
number of hidden sequence points.
-/

namespace ILGraft.Marker

/-- A number whose numeral is not too long to be written. -/
def Writable (number : Nat) : Prop :=
  Text.Writable number

/-- A marker is written if all its numbers can be. -/
theorem tryWrite_ok (path : String) {a b c d : Nat}
    (hnumbers : ∀ number ∈ [a, b, c, d], Writable number) :
    tryWrite path a b c d = .ok (write path a b c d) := by
  have hwritten (n : Nat) (hn : n ∈ [a, b, c, d]) :
      Text.writeNumeral n = .ok (Text.numeral n) := if_pos (hnumbers n hn)
  rw [tryWrite, hwritten a (by simp), hwritten b (by simp), hwritten c (by simp),
    hwritten d (by simp)]
  rfl

/-- The marker written for a path that was read from a line gives the path with its backslashes
doubled, hence the same path exactly if there is none, and its first number unless that marks a
hidden sequence point. The annotations of code from that file give the path in the same way. -/
theorem tryWrite_reads_back {line path : String}
    (hswitch : fileSwitch? line.toList = some path.toList) {a b c d : Nat}
    (hnumbers : ∀ number ∈ [a, b, c, d], Writable number) :
    (∃ text, tryWrite path a b c d = .ok text ∧
      fileSwitch? text.toList = some (escaped path).toList ∧
      (fileSwitch? text.toList = some path.toList ↔ '\\' ∉ path.toList) ∧
      lineNumber text.toList = .ok (if a = hiddenLine then 0 else a)) ∧
    ∀ (number : Nat) (code : String), isStatement code = true →
      fileSwitch? (Snippet.annotation path number code).toList = some (escaped path).toList := by
  obtain ⟨hne, hquote⟩ := path_of_fileSwitch? hswitch
  have hread (first last start stop : Nat) :
      fileSwitch? (write path first last start stop).toList = some (escaped path).toList :=
    fileSwitch?_write hne hquote first last start stop
  refine ⟨⟨write path a b c d, tryWrite_ok path hnumbers, hread a b c d, ?_, ?_⟩, ?_⟩
  · rw [hread, Option.some_inj, String.toList_inj, escaped_eq_self_iff]
  · exact lineNumber_write path (hnumbers a List.mem_cons_self) b c d
  · intro number code hcode
    rw [Snippet.annotation, if_pos hcode]
    exact hread number number 1 (code.length + 1)

/-- A marker that names a file by its drive and directory is written with a doubled backslash. -/
theorem tryWrite_reads_back_drive :
    (∀ number ∈ [7, 7, 2, 6], Writable number) ∧
    ∃ text, tryWrite "c:\\t.cs" 7 7 2 6 = .ok text ∧
      fileSwitch? text.toList = some "c:\\\\t.cs".toList ∧ lineNumber text.toList = .ok 7 := by
  have hnumbers : ∀ number ∈ [7, 7, 2, 6], Writable number := by
    unfold Writable
    decide
  have hswitch : fileSwitch? ".line 3,3 : 1,5 'c:\\t.cs'".toList = some "c:\\t.cs".toList := by
    decide
  obtain ⟨⟨text, hwritten, hfile, -, hline⟩, -⟩ := tryWrite_reads_back hswitch hnumbers
  exact ⟨hnumbers, text, hwritten, hfile, hline⟩

/-- Not every path is read back as it was, and not every marker can be written if only its first
number is known to be short. -/
theorem exists_not_read_back :
    (∃ line text : String, fileSwitch? line.toList = some "c:\\a.cs".toList ∧
      tryWrite "c:\\a.cs" 1 1 1 1 = .ok text ∧
      fileSwitch? text.toList ≠ some "c:\\a.cs".toList) ∧
    ∃ line : String, fileSwitch? line.toList = some "a.cs".toList ∧
      tryWrite "a.cs" 1 (Nat.pow 10 4300) 1 1 = .error .unwritable :=
  ⟨⟨".line 1,1 : 1,1 'c:\\a.cs'", _, by decide, rfl, by decide⟩,
    ".line 1,1 : 1,1 'a.cs'", by decide, by decide +kernel⟩

end ILGraft.Marker
