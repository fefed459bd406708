import CompletionStream.Stream.Pull

/-!
# Closing — a stream that was opened is closed once

A stream may be closed in two places: one over a provider's client closes what it draws on when
it runs out, and whoever pulls a stream closes it in the end, however the pulling went.  Only
one of the two finds something to close.  `Settled` says this of a stream on its way: what it
draws on was closed if the stream closes itself and is spent, and otherwise not yet.  Running out
keeps it so (`settled_runOut`), and closing a settled stream in the end closes it once in all
(`close_eq`).

A stream that nobody has asked for a chunk is not settled: closing one that closes itself would
find nothing to close.  But a session leaves a stream, or is interrupted over one, only after it
has taken a chunk (`drain_taken`).  So every run over a stream closes it once, and
`pullStream_eq` says what such a run comes to.
-/

namespace CompletionStream

namespace PullStream

/-- How often a stream is closed in the end, once it was started. -/
def closings (stream : PullStream) : Nat :=
  if stream.closable then 1 else 0

theorem shut_eq (stream : PullStream) (hold : Hold) :
    stream.shut hold = (stream.closing, ⟨.spent, hold.closed + stream.closings⟩) := by
  rw [shut, closing, closings]
  split <;> rfl

/-- The stream was asked for a chunk, and what it draws on was closed if it did so itself. -/
structure Settled (stream : PullStream) (hold : Hold) : Prop where
  started : hold.standing ≠ .untouched
  closed : hold.closed
    = if stream.closesItself ∧ hold.standing = .spent then stream.closings else 0

/-- A stream that yielded a chunk waits, and was not closed yet. -/
theorem settled_after (stream : PullStream) {yielded : Nat} (h : 0 < yielded) :
    stream.Settled (.after yielded) ∧ (Hold.after yielded).standing = .waiting := by
  have hwaiting : (Hold.after yielded).standing = .waiting := if_neg (Nat.ne_of_gt h)
  refine ⟨⟨?_, ?_⟩, hwaiting⟩
  · rw [hwaiting]
    exact nofun
  · rw [hwaiting, if_neg (fun hspent => nomatch hspent.2)]
    rfl

/-- A stream that runs out raises how it ended, and it is closed if it closes itself. -/
theorem settled_runOut (stream : PullStream) (yielded : Nat) :
    (stream.runOut (.after yielded)).1 = stream.lastFault
      ∧ stream.Settled (stream.runOut (.after yielded)).2
      ∧ (stream.runOut (.after yielded)).2.standing = .spent := by
  rw [runOut, lastFault, shut_eq]
  cases hself : stream.closesItself with
  | true => exact ⟨rfl, ⟨nofun, by simp [hself, Hold.after]⟩, rfl⟩
  | false => exact ⟨rfl, ⟨nofun, by simp [hself, Hold.after]⟩, rfl⟩

/-- **Closing a stream in the end closes it once in all.** -/
theorem close_eq {stream : PullStream} {hold : Hold} (h : stream.Settled hold) :
    stream.close hold
      = (if stream.closesItself ∧ hold.standing = .spent then none else stream.closing,
          ⟨.spent, stream.closings⟩) := by
  have hspent : hold.standing ≠ .waiting ↔ hold.standing = .spent := by
    have hstarted := h.started
    cases hstanding : hold.standing with
    | untouched => exact absurd hstanding hstarted
    | waiting => simp
    | spent => simp
  have hclosed := h.closed
  rw [close, shut_eq]
  simp only [hspent]
  split
  · rename_i hdone
    rw [if_pos hdone] at hclosed
    rw [hclosed]
  · rename_i hopen
    rw [if_neg hopen] at hclosed
    rw [hclosed, Nat.zero_add]

end PullStream

namespace Session

/-- A session that leaves a stream, or is interrupted over it, has taken a chunk. -/
theorem drain_taken (chunks : List PartialChunk) (taken : Nat) (s : Session) :
    (drain chunks taken s).1 = .exhausted ∨ taken < (drain chunks taken s).2.1 := by
  induction chunks generalizing taken s with
  | nil => exact .inl rfl
  | cons chunk rest ih =>
      rw [drain]
      rcases s.receive (.next chunk) with ⟨fault | -, s'⟩
      · exact .inr (Nat.lt_succ_self taken)
      · dsimp only
        split
        · exact .inr (Nat.lt_succ_self taken)
        · rcases ih (taken + 1) s' with hdone | hmore
          · exact .inl hdone
          · exact .inr (Nat.lt_of_succ_lt hmore)

/-- **What a run over a stream comes to.**  Whichever way it goes, and whatever is raised
    meanwhile, the stream is closed as often as it is to be closed in the end. -/
theorem pullStream_eq (s : Session) (stream : PullStream) :
    s.pullStream stream
      = match drain stream.chunks 0 s with
        | (.exhausted, yielded, s) =>
          let (outcome, s) := s.settle stream.lastFault
          let (outcome, s) :=
            s.closeStream outcome (if stream.closesItself then none else stream.closing)
          (outcome, ⟨yielded, stream.closings⟩, s)
        | (.left, yielded, s) =>
          let (outcome, s) := s.complete
          let (outcome, s) := s.closeStream outcome stream.closing
          (outcome, ⟨yielded, stream.closings⟩, s)
        | (.interrupted fault, yielded, s) =>
          let (outcome, s) := s.closeStream (.error fault) stream.closing
          (outcome, ⟨yielded, stream.closings⟩, s) := by
  have htaken := drain_taken stream.chunks 0 s
  rw [pullStream]
  generalize drain stream.chunks 0 s = result at htaken ⊢
  obtain ⟨- | - | fault, yielded, s'⟩ := result
  · obtain ⟨hfault, hsettled, hspent⟩ := stream.settled_runOut yielded
    dsimp only
    rw [hfault, PullStream.close_eq hsettled, hspent]
    simp only [and_true]
  · obtain ⟨hsettled, hwaiting⟩ := stream.settled_after (htaken.resolve_left nofun)
    dsimp only
    rw [PullStream.close_eq hsettled, hwaiting]
    simp only [reduceCtorEq, and_false, if_false]
  · obtain ⟨hsettled, hwaiting⟩ := stream.settled_after (htaken.resolve_left nofun)
    dsimp only
    rw [PullStream.close_eq hsettled, hwaiting]
    simp only [reduceCtorEq, and_false, if_false]

/-- **A run over a stream closes it once**, whoever raises whatever. -/
theorem pullStream_closed (s : Session) (stream : PullStream) :
    (s.pullStream stream).2.1.closed = stream.closings := by
  rw [pullStream_eq]
  rcases drain stream.chunks 0 s with ⟨- | - | fault, yielded, s'⟩ <;> rfl

end Session

end CompletionStream
