import TypeShape.Description.Event
import TypeShape.Proofs.Position

/-!
# Messages tell errors apart

The texts in an error are put into its message as they are, whatever they contain, so a message is
read from its end: the last character tells the cause, the first one the refused form, and the
position is what follows the last blank in front of the fixed end.

* `endMark`: the last character of a message of each cause;
* `label_append_inj`: the name of a form is known from the message that opens with it;
* `placed_inj`: a text and the position behind it are known from the two together;
* `Event.record_refused_inj`: a refusal is known from its log record as well.

Main statement: `message_identifies_error`.
-/

namespace TypeShape

/-! ### The opening of a message -/

theorem Refusal.label_append_inj {form form' : Refusal} {rest rest' : List Char}
    (h : form.label.toList ++ rest = form'.label.toList ++ rest') : form = form' ∧ rest = rest' := by
  have hform : form = form' := by
    have hhead := congrArg List.head? h
    revert hhead
    cases form <;> cases form' <;> simp [label]
  subst hform
  exact ⟨rfl, List.append_cancel_left h⟩

/-! ### A text and a position behind it -/

/-- A text and a position, as a message joins them. -/
def placed (text : String) (p : Position) : List Char := text.toList ++ " at ".toList ++ p.text

/-- The text may itself mention positions: the last blank is the one in front of the position. -/
theorem placed_inj {text text' : String} {p p' : Position} (h : placed text p = placed text' p') :
    text = text' ∧ p = p' := by
  have hrun : ∀ q : Position, ∀ c ∈ q.text, (c != ' ') = true := by
    intro q c hc
    exact bne_iff_ne.2 fun hspace => q.space_notMem_text (hspace ▸ hc)
  have hlast : ∀ s : String, ∀ c ∈ (s.toList ++ " at ".toList).getLast?, (c != ' ') = false := by
    intro s c hc
    obtain rfl : ' ' = c := by simpa using hc
    rfl
  obtain ⟨htext, hp⟩ := Text.append_inj_of_last_run (hrun p) (hrun p') (hlast text) (hlast text') h
  exact ⟨String.toList_inj.1 (List.append_cancel_right htext), Position.text_inj.1 hp⟩

namespace DescribeError

/-! ### The end of a message -/

/-- The last character of the message of an error. -/
def endMark : DescribeError → Char
  | .absent _ => 't'
  | .unsupported _ _ _ => '.'
  | .unpinned _ => 'd'

theorem getLast?_message (error : DescribeError) :
    error.message.toList.getLast? = some error.endMark := by
  cases error with
  | absent p =>
    rw [message_absent, String.toList_append, List.getLast?_append]
    rfl
  | unsupported form text p =>
    rw [message_unsupported, String.toList_append, List.getLast?_append, String.toList_append,
      List.getLast?_append]
    cases form <;> rfl
  | unpinned ancestor =>
    rw [message_unpinned, String.toList_append, List.getLast?_append]
    rfl

theorem toList_message_unsupported (form : Refusal) (text : String) (p : Position) :
    (unsupported form text p).message.toList = form.label.toList ++ (" ".toList ++
      (placed text p ++ (" is not supported.".toList ++ form.hint.toList))) := by
  rw [message_unsupported, placed]
  simp only [String.toList_append, Position.render, String.toList_ofList, List.append_assoc]

theorem message_inj {error error' : DescribeError} (h : error.message = error'.message) :
    error = error' := by
  have hend : error.endMark = error'.endMark := by
    have hlast := error.getLast?_message
    rw [h, error'.getLast?_message] at hlast
    exact (Option.some.inj hlast).symm
  -- the cause is the same on both sides, since the last characters are
  cases error with
  | absent p =>
    cases error' with
    | absent p' =>
      have hp : p.render = p'.render :=
        (String.append_right_inj _).1 ((String.append_left_inj _).1 h)
      rw [Position.render_inj.1 hp]
    | _ => simp [endMark] at hend
  | unsupported form text p =>
    cases error' with
    | unsupported form' text' p' =>
      have hlist := congrArg String.toList h
      rw [toList_message_unsupported, toList_message_unsupported] at hlist
      obtain ⟨rfl, hrest⟩ := Refusal.label_append_inj hlist
      obtain ⟨rfl, rfl⟩ := placed_inj (List.append_cancel_right (List.append_cancel_left hrest))
      rfl
    | _ => simp [endMark] at hend
  | unpinned ancestor =>
    cases error' with
    | unpinned ancestor' =>
      have hancestor : ancestor = ancestor' := (String.append_left_inj _).1 h
      rw [hancestor]
    | _ => simp [endMark] at hend

end DescribeError

theorem Event.record_refused_inj {form form' : Refusal} {text text' : String} {p p' : Position} :
    (refused form text p).record = (refused form' text' p').record ↔
      text = text' ∧ p = p' ∧ form = form' := by
  simp only [record, LogRecord.mk.injEq, List.cons.injEq, Prod.mk.injEq, FieldValue.text.injEq,
    Position.render_inj, Refusal.tag_inj, true_and, and_true]

/-- **A message identifies its error.** Two errors have the same message exactly when they have the same
cause and the same form, texts and position, whatever the texts contain. -/
theorem message_identifies_error (error error' : DescribeError) :
    error.message = error'.message ↔ error = error' := by
  constructor
  · exact DescribeError.message_inj
  · rintro rfl
    rfl

end TypeShape
