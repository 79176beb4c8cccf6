import ScriptProfiling.Proofs.Json.Reading
import ScriptProfiling.Proofs.Partial
import ScriptProfiling.Trace

/-!
# Traces are read to their end

A line of a trace gives an entry, or it is malformed and skipped; what it says never ends
the reading. The exception is a run of more digits than a number may have: the fault that
it makes is none of the line, and nothing behind the line is read.
-/
namespace ScriptProfiling

section Conversions

theorem spoils_truncate (x : Binary64) : FailsWith (·.spoilsLine = true) x.truncate := by
  cases x with
  | nan => exact failsWith_error rfl
  | infinite s => exact failsWith_error rfl
  | finite s m e hc => exact failsWith_ok _

theorem spoils_wholeOf (cs : List Char) (written : String) :
    FailsWith (·.spoilsLine = true) (wholeOf cs written) := by
  unfold wholeOf
  split
  · exact failsWith_error rfl
  · exact failsWith_error rfl
  · exact failsWith_ok _

/-- Whatever a value is, it is refused as a whole number for a reason that spoils its line. -/
theorem spoils_toWhole (v : Value) : FailsWith (·.spoilsLine = true) v.toWhole := by
  unfold Value.toWhole
  split
  · exact failsWith_ok _
  · exact failsWith_ok _
  · exact spoils_truncate _
  · exact spoils_wholeOf _ _
  · exact spoils_wholeOf _ _
  · exact failsWith_error rfl

theorem spoils_wholeToFloat (n : Int) : FailsWith (·.spoilsLine = true) (wholeToFloat n) := by
  unfold wholeToFloat
  dsimp only
  split
  · exact failsWith_ok _
  · exact failsWith_error rfl

theorem spoils_toFloat (v : Value) : FailsWith (·.spoilsLine = true) v.toFloat := by
  unfold Value.toFloat
  split
  · exact spoils_wholeToFloat _
  · exact spoils_wholeToFloat _
  · exact failsWith_ok _
  · unfold parseFloat
    split
    · exact failsWith_ok _
    · exact failsWith_error rfl
  · split
    · exact failsWith_ok _
    · exact failsWith_error rfl
  · exact failsWith_error rfl

end Conversions

namespace TraceEntry

theorem spoils_finiteWhole (v : Value) : FailsWith (·.spoilsLine = true) (finiteWhole v) := by
  unfold finiteWhole
  split
  · split
    · exact spoils_truncate _
    · exact failsWith_error rfl
  · exact spoils_toWhole v

theorem spoils_durationOf (fields : List (String × Json)) :
    FailsWith (·.spoilsLine = true) (durationOf fields) := by
  unfold durationOf
  split
  · exact (spoils_finiteWhole _).bind fun _ _ => failsWith_ok _
  · split
    · exact failsWith_ok _
    · refine (spoils_toFloat _).bind fun millis _ => ?_
      exact (spoils_finiteWhole _).bind fun _ _ => failsWith_ok _

/-- A field that was read of some JSON can be shown: its whole numbers were read under the
limit under which they are written. -/
theorem shown_of_writable {x : Json} (h : x.writable = true) : shown x = .ok x.toValue.display :=
  if_pos h

/-- An entry, or a fault of the line with the given number. -/
def Settled {α : Type} (line : Nat) (r : Except Fault α) : Prop :=
  (∃ x, r = .ok x) ∨ ∃ reason, r = .error (.traceFormat line reason)

section Settled

variable {α β : Type} {line : Nat}

theorem settled_ok (x : α) : Settled line (.ok x) := Or.inl ⟨x, rfl⟩

theorem Settled.bind {r : Except Fault α} (h : Settled line r) {g : α → Except Fault β}
    (hg : ∀ x, r = .ok x → Settled line (g x)) : Settled line (r >>= g) := by
  rcases h with ⟨x, rfl⟩ | ⟨reason, rfl⟩
  · exact hg x rfl
  · exact Or.inr ⟨reason, rfl⟩

theorem settled_readField {before : String} {field : Except Fault α}
    (h : FailsWith (·.spoilsLine = true) field) : Settled line (readField line before field) := by
  unfold readField
  cases field with
  | ok x => exact settled_ok x
  | error f =>
    dsimp only
    rw [if_pos (h f rfl)]
    exact Or.inr ⟨_, rfl⟩

theorem settled_required (fields : List (String × Json)) (name : String) :
    Settled line (required line fields name) := by
  unfold required
  split
  · exact settled_ok _
  · exact Or.inr ⟨_, rfl⟩

end Settled

section Fields

variable {fields : List (String × Json)} (hfields : Json.fieldsWritable fields = true) (line : Nat)

include hfields

theorem writable_of_required {name : String} {x : Json} (h : required line fields name = .ok x) :
    x.writable = true := by
  unfold required at h
  split at h
  · next y hy => exact Except.ok.inj h ▸ Json.writable_lookup hfields hy
  · cases h

theorem optionalText_ok (name default : String) :
    ∃ s, optionalText fields name default = .ok s := by
  unfold optionalText
  split
  · next x hx => exact ⟨_, shown_of_writable (Json.writable_lookup hfields hx)⟩
  · exact ⟨default, rfl⟩

theorem settled_keyOf : Settled line (keyOf line fields) := by
  unfold keyOf
  refine (settled_required fields "file").bind fun file hfile => ?_
  rw [shown_of_writable (writable_of_required hfields line hfile)]
  refine (settled_required fields "line").bind fun number _ => ?_
  refine (settled_readField (spoils_toWhole _)).bind fun number _ => ?_
  obtain ⟨kind, hkind⟩ := optionalText_ok hfields "kind" "event"
  rw [hkind]
  exact settled_ok _

theorem settled_ofFields : Settled line (ofFields line fields) := by
  unfold ofFields
  refine (settled_keyOf hfields line).bind fun key _ => ?_
  refine (settled_readField (spoils_durationOf _)).bind fun duration _ => ?_
  obtain ⟨name, hname⟩ := optionalText_ok hfields "name" ""
  rw [hname]
  exact settled_ok _

end Fields

theorem settled_parse {text : String}
    (h : ∀ digits, Json.parse text ≠ .error (.numeralTooLong digits)) (line : Nat) :
    Settled line (parse text line) := by
  unfold parse
  rcases Json.parse_cases text with ⟨x, hx, hwritable⟩ | ⟨digits, hx, -⟩ | ⟨e, hx, he⟩
  · rw [hx]
    cases x with
    | object fields => exact settled_ofFields (by simpa [Json.writable] using hwritable) line
    | _ => exact Or.inr ⟨_, rfl⟩
  · exact absurd hx (h digits)
  · rw [hx]
    cases e with
    | numeralTooLong digits => exact absurd rfl (he digits)
    | _ => exact Or.inr ⟨_, rfl⟩

/-- What a line comes to: an entry, a fault of the line, or the fault of a long run of
digits in it. -/
theorem parse_cases (text : String) (line : Nat) :
    Settled line (parse text line) ∨
      ∃ digits, parse text line = .error (.numeralTooLong digits) ∧ LongRun digits text.toList := by
  rcases Json.parse_cases text with ⟨x, hx, -⟩ | ⟨digits, hx, hrun⟩ | ⟨e, hx, he⟩
  · refine Or.inl (settled_parse (fun digits heq => ?_) line)
    rw [hx] at heq
    cases heq
  · exact Or.inr ⟨digits, by rw [parse, hx], hrun⟩
  · refine Or.inl (settled_parse (fun digits heq => he digits ?_) line)
    rw [hx] at heq
    exact Except.error.inj heq

end TraceEntry
end ScriptProfiling
