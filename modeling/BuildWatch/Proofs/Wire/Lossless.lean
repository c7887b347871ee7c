import BuildWatch.Proofs.Wire.Messages
import BuildWatch.Proofs.Wire.RoundTrip

namespace BuildWatch.Wire

open Json Text

variable {text : String} {tokens : List Token}

/-! ## Objects -/

theorem isBlank_of_isSpace {c : Char} (blank : isSpace c) : isBlank c = true := by
  simp only [isSpace, Bool.or_eq_true, beq_iff_eq] at blank
  rcases blank with ((rfl | rfl) | rfl) | rfl <;> decide

theorem isStructured_of_spelled (spelled : Spelled (.openObject :: tokens) text.toList) :
    isStructured text = true := by
  unfold isStructured
  generalize text.toList = letters at spelled ⊢
  cases spelled with
  | cons blank brace rest =>
    rw [trimStart_append_blanks fun c among => isBlank_of_isSpace (blank c among)]
    cases brace with
    | fixed => rfl

/-- A piece of a log, sent along with a message. -/
def Frame.ofChunk (piece : Chunk) (message : String) : Frame where
  line := piece.line
  status := piece.status
  isComplete := piece.isComplete
  errorMessage := message

theorem encode_ofChunk (piece : Chunk) : frame.encode (.ofChunk piece "") = chunk.encode piece :=
  rfl

theorem decodeFrame_of_spelled {piece : Chunk} {message : String}
    (blank : ∀ c ∈ message.toList, isBlank c)
    (spelled : Spelled (frame.write (.ofChunk piece message)) text.toList) :
    decodeFrame text = .ok piece := by
  have structured : isStructured text = true := by
    have written := write_eq frameRecord (.ofChunk piece message)
    exact isStructured_of_spelled (written ▸ spelled)
  have typed := faithful_frame.typed (.ofChunk piece message)
  rw [decodeFrame, if_pos structured, typed.decode spelled]
  simp only [Frame.result, Frame.ofChunk, Fault.check_of_isBlank blank]
  rfl

/-! ## Lines -/

theorem decodeFrame_of_marked {status : Status} {detail : String}
    (unstructured : isStructured text = false) (marked : marker? text = some (status, detail)) :
    decodeFrame text = .ok { line := "", status, isComplete := true } := by
  simp [decodeFrame, unstructured, marked]

theorem decodeFrame_of_plain (unstructured : isStructured text = false)
    (unmarked : marker? text = none) : decodeFrame text =
      .ok { line := terminated text, status := .building, isComplete := false } := by
  simp [decodeFrame, unstructured, unmarked]

theorem toList_terminated (line : String) : (terminated line).toList =
    if line.toList.getLast? = some '\n' then line.toList else line.toList ++ ['\n'] := by
  have feed : "\n".toList = ['\n'] := by decide +kernel
  unfold terminated
  split
  · rfl
  · rw [String.toList_append, feed]

theorem terminated_terminated (line : String) :
    terminated (terminated line) = terminated line := by
  have ends : (terminated line).toList.getLast? = some '\n' := by
    rw [toList_terminated]
    split
    · assumption
    · simp
  rw [terminated, if_pos ends]

theorem isStructured_terminated (line : String) :
    isStructured (terminated line) = isStructured line := by
  rw [isStructured, isStructured, toList_terminated]
  split
  · rfl
  · rw [trimStart, List.dropWhile_append]
    split
    · rename_i blank
      rw [trimStart, List.isEmpty_iff.mp blank]
      rfl
    · rename_i solid
      rw [List.isEmpty_iff] at solid
      rw [List.head?_append_of_ne_nil _ solid]
      rfl

theorem marker?_terminated (unmarked : marker? text = none) :
    marker? (terminated text) = none := by
  rw [← Option.not_isSome_iff_eq_none, marker?_isSome_iff] at unmarked ⊢
  rw [toList_terminated]
  split
  · exact unmarked
  · intro begins
    rcases List.prefix_concat_iff.mp begins with whole | before
    · have last := congrArg List.getLast? whole
      rw [List.getLast?_concat] at last
      exact absurd last (by decide +kernel)
    · exact unmarked before

theorem decodeFrame_terminated (unstructured : isStructured text = false)
    (unmarked : marker? text = none) : decodeFrame (terminated text) = decodeFrame text := by
  rw [decodeFrame_of_plain unstructured unmarked, decodeFrame_of_plain
    (isStructured_terminated text ▸ unstructured) (marker?_terminated unmarked),
    terminated_terminated]

/-! ## Frames -/

/-- A piece of a log comes out of its text as it was, alone or with a blank message. A text that
begins no object is decoded always: to the end of the log if it begins a marker, and to itself as a
line of the log otherwise, which stands for the same line again. -/
theorem frames_lossless :
    (∀ piece : Chunk, decodeFrame (chunk.encode piece) = .ok piece) ∧
    (∀ (piece : Chunk) (message : String), (∀ c ∈ message.toList, isBlank c) →
      decodeFrame (frame.encode (.ofChunk piece message)) = .ok piece) ∧
    ∀ text : String, (trimStart text.toList).head? ≠ some '{' →
      ∃ piece, decodeFrame text = .ok piece ∧
        (piece.isComplete ∧ piece.line = "" ↔ markerStart.toList <+: text.toList) ∧
        (¬ markerStart.toList <+: text.toList →
          piece.isComplete = false ∧ piece.status = .building ∧
          (text.toList.getLast? = some '\n' → piece.line = text) ∧
          (text.toList.getLast? ≠ some '\n' → piece.line = text ++ "\n") ∧
          decodeFrame piece.line = .ok piece) := by
  have lossless (piece : Chunk) (message : String) (blank : ∀ c ∈ message.toList, isBlank c) :
      decodeFrame (frame.encode (.ofChunk piece message)) = .ok piece := by
    apply decodeFrame_of_spelled blank
    exact spelled_render (faithful_frame.writable _)
  have alone (piece : Chunk) : decodeFrame (chunk.encode piece) = .ok piece := by
    rw [← encode_ofChunk]
    exact lossless piece "" (by simp)
  refine ⟨alone, lossless, fun text plain => ?_⟩
  have unstructured : isStructured text = false := by simpa [isStructured] using plain
  cases marked : marker? text with
  | some parts =>
    obtain ⟨status, detail⟩ := parts
    have begins : markerStart.toList <+: text.toList := marker?_isSome_iff.mp (by simp [marked])
    refine ⟨_, decodeFrame_of_marked unstructured marked, by simp [begins], ?_⟩
    exact fun other => absurd begins other
  | none =>
    have other : ¬ markerStart.toList <+: text.toList := by
      rw [← marker?_isSome_iff, marked]
      simp
    have decoded := decodeFrame_of_plain unstructured marked
    refine ⟨_, decoded, by simp [other], fun _ => ⟨rfl, rfl, ?_, ?_, ?_⟩⟩
    · exact fun ends => if_pos ends
    · exact fun unmarked => if_neg unmarked
    · exact (decodeFrame_terminated unstructured marked).trans decoded

theorem lookalikes_lossless :
    let piece : Chunk := ⟨"BUILD_COMPLETE:failed\n\x7b\"line\":1\x7d", .success, true⟩
    let line := "\u2028BUILD_COMPLETE:success"
    decodeFrame (frame.encode (.ofChunk piece " \u3000")) = .ok piece ∧
      ∃ shown, decodeFrame line = .ok shown ∧ shown.isComplete = false ∧
        shown.line = line ++ "\n" ∧ decodeFrame shown.line = .ok shown := by
  intro piece line
  obtain ⟨-, objects, lines⟩ := frames_lossless
  have other : ¬ markerStart.toList <+: line.toList := by decide +kernel
  obtain ⟨shown, decoded, -, kept⟩ := lines line (by decide +kernel)
  obtain ⟨incomplete, -, -, fed, again⟩ := kept other
  exact ⟨objects piece " \u3000" (List.all_eq_true.mp (by decide +kernel)), shown, decoded,
    incomplete, fed (by decide +kernel), again⟩

end BuildWatch.Wire
