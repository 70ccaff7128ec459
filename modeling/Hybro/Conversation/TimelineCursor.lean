import Hybro.Conversation.Timeline

/-! # Timeline cursors are read back

A cursor that was encoded for a room decodes to its position in that room, as long as it is not
longer than the decoder allows.
-/

namespace Hybro.Conversation

open JsonText (Json)

theorem sourceOf_value (source : Source) : sourceOf source.value = some source := by
  cases source <;> rfl

theorem cursorPosition_payload (conversationId : String) (position : TimelinePosition)
    (hus : minBsonInt64 ≤ position.timelineSortUs ∧ position.timelineSortUs ≤ maxBsonInt64)
    (hid : PythonText.isBlank position.messageId = false) :
    cursorPosition conversationId
      ((cursorPayload conversationId position).map fun (key, value) => (key, value.json)) =
      .ok position := by
  unfold cursorPosition
  rw [if_neg (by simp [cursorPayload, cursorFields])]
  simp [cursorPayload, JsonText.Scalar.json, isCursorVersion, isText, List.lookup_cons, sourceOf_value,
    hus, hid, pure, Except.pure]

theorem fromUTF8_toUTF8 (text : String) :
    String.fromUTF8? ⟨text.toUTF8.data.toList.toArray⟩ = some text := by
  change (if h : text.toByteArray.IsValidUTF8 then some (String.fromUTF8 text.toByteArray h)
    else none) = some text
  rw [dif_pos text.isValidUTF8]
  rfl

theorem decode_encode (conversationId : String) (position : TimelinePosition)
    (hlength : (encodeTimelineCursor conversationId position).length ≤ maxCursorLength)
    (hus : minBsonInt64 ≤ position.timelineSortUs ∧ position.timelineSortUs ≤ maxBsonInt64)
    (hid : PythonText.isBlank position.messageId = false) :
    decodeTimelineCursor (encodeTimelineCursor conversationId position) conversationId =
      .ok position := by
  have hread : ((Base64Url.decode (encodeTimelineCursor conversationId position).toList).bind
      fun bytes => (String.fromUTF8? ⟨bytes.toArray⟩).bind JsonText.loads) =
      some (.object ((cursorPayload conversationId position).map fun (key, value) =>
        (key, value.json))) := by
    unfold encodeTimelineCursor
    dsimp only
    rw [String.toList_ofList, Base64Url.decode_encode, Option.bind_some, fromUTF8_toUTF8,
      Option.bind_some]
    exact JsonText.loads_object (cursorPayload conversationId position)
  have hnonempty : encodeTimelineCursor conversationId position ≠ "" := by
    intro hempty
    rw [hempty] at hread
    cases hread
  have halphabet : (encodeTimelineCursor conversationId position).toList.all
      (fun c => Base64Url.alphabet.contains c) = true := by
    rw [List.all_eq_true]
    intro c hc
    unfold encodeTimelineCursor at hc
    dsimp only at hc
    rw [String.toList_ofList] at hc
    exact List.contains_iff_mem.mpr (Base64Url.mem_alphabet_of_mem_encode hc)
  unfold decodeTimelineCursor
  rw [if_neg (by simp [hnonempty, hlength]), if_neg (not_not.mpr halphabet), hread]
  exact cursorPosition_payload conversationId position hus hid

/-! ## Long identifiers -/

theorem length_le_utf8ByteSize (chars : List Char) :
    chars.length ≤ (String.ofList chars).utf8ByteSize := by
  induction chars with
  | nil => simp
  | cons c chars ih =>
      have hpos := c.utf8Size_pos
      have hsplit : String.ofList (c :: chars) = String.singleton c ++ String.ofList chars := by
        apply String.toList_injective
        simp
      rw [hsplit, String.utf8ByteSize_append, String.utf8ByteSize_singleton, List.length_cons]
      omega

theorem length_le_encodeTimelineCursor (conversationId : String) (position : TimelinePosition) :
    position.messageId.length ≤ (encodeTimelineCursor conversationId position).length := by
  have hsize : ∀ text : String, text.toList.length ≤ text.toUTF8.data.toList.length := by
    intro text
    have hle := length_le_utf8ByteSize text.toList
    rw [String.ofList_toList] at hle
    exact hle
  have hmember : ("message_id", JsonText.Scalar.text position.messageId) ∈
      cursorPayload conversationId position := by simp [cursorPayload]
  have hpayload := JsonText.length_le_memberChars hmember
  unfold encodeTimelineCursor
  dsimp only
  rw [String.length_ofList]
  refine le_trans ?_ (Base64Url.length_le_encode _)
  refine le_trans ?_ (hsize _)
  rw [JsonText.toList_object, List.length_cons]
  omega

/-- What a cursor encodes. -/
def cursorText (conversationId : String) (position : TimelinePosition) : String :=
  JsonText.object ((cursorPayload conversationId position).map fun (key, value) =>
    (key, value.written))

theorem length_encodeTimelineCursor_le (conversationId : String) (position : TimelinePosition) :
    (encodeTimelineCursor conversationId position).length ≤
      2 * (cursorText conversationId position).utf8ByteSize := by
  unfold encodeTimelineCursor cursorText
  dsimp only
  rw [String.length_ofList]
  exact Base64Url.length_encode_le _

theorem decode_long {conversationId : String} {position : TimelinePosition}
    (hlong : maxCursorLength < position.messageId.length) :
    decodeTimelineCursor (encodeTimelineCursor conversationId position) conversationId =
      .error .invalid := by
  have hlength := length_le_encodeTimelineCursor conversationId position
  unfold decodeTimelineCursor
  rw [if_pos (Or.inr (Nat.lt_of_lt_of_le hlong hlength))]
  rfl

end Hybro.Conversation
