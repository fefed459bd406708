import CompletionStream.Proofs.Wire.Faults
import CompletionStream.Stream.Push

/-!
# Contract — what a subscriber is called with

A source calls its subscriber with the chunks of a stream, one by one, and then makes one final
call.  Three things can stop it before the stream is used up: the stream cannot be opened, a
chunk cannot be read, or a call raises something.  `Meets` says which of them comes first, with
the chunks until then and the state that the calls leave behind, and says it without the loop;
`EndsBy` says what follows from it.

To say which calls are made, whatever they do, a subscriber is made to note them (`noting`),
which changes nothing else.  A stream is met in some way (`meets_total`), and however it is met,
the loop comes to the same (`deliver_stops`), for a subscriber that notes its calls as for one
that does not.
-/

namespace CompletionStream

/-- How a stream ends for a source that pushes it: one that stalls is cancelled in the end. -/
def RawStream.pushedEnding (raw : RawStream) : Option Fault :=
  if raw.stalls then some cancelled else raw.ending

/-- A fault says that a transport was closed, and no more. -/
structure Fault.SaysClosed (told : Fault) : Prop where
  name : told.name = "TransportError"
  message : told.message = "transport closed"
  status : told.status? = some .null
  cause : told.cause? = none

theorem saysClosed_transportClosed : transportClosed.SaysClosed := ⟨rfl, rfl, rfl, rfl⟩

namespace Subscriber

variable {σ : Type}

/-- One call of a subscriber. -/
inductive Call where
  | next (chunk : PartialChunk)
  | error (fault : Fault)
  | complete

/-- A call is noted, and made. -/
def noted (call : Call) (make : σ → Outcome Unit × σ) (state : List Call × σ) :
    Outcome Unit × List Call × σ :=
  ((make state.2).1, state.1 ++ [call], (make state.2).2)

/-- The subscriber, noting its calls. -/
def noting (sub : Subscriber σ) : Subscriber (List Call × σ) where
  onNext chunk := noted (.next chunk) (sub.onNext chunk)
  onError fault := noted (.error fault) (sub.onError fault)
  onComplete := noted .complete sub.onComplete

-- ── How a stream is met ────────────────────────────────────────────────────────────

/-- A subscriber is called with some chunks, in order, and every call returns. -/
inductive Takes (sub : Subscriber σ) : σ → List PartialChunk → σ → Prop where
  | nil (state : σ) : Takes sub state [] state
  | cons {state between after : σ} {chunk : PartialChunk} {chunks : List PartialChunk} :
      sub.onNext chunk state = (.ok (), between) → Takes sub between chunks after →
      Takes sub state (chunk :: chunks) after

/-- What stops the chunks of a stream: its end, a chunk that cannot be read, or a call that
    raises something.  With it go the chunks that the subscriber was called with and the state
    that these calls left. -/
inductive Stops (sub : Subscriber σ) (ending : Option Fault) (raws : List Value) (state : σ) :
    List PartialChunk → Option Fault → σ → Prop where
  | usedUp {chunks : List PartialChunk} {after : σ} :
      raws.map Wire.chunk = chunks.map .ok → sub.Takes state chunks after →
      Stops sub ending raws state chunks ending after
  | unread {before rest : List Value} {bad : Value} {chunks : List PartialChunk}
      {fault : Fault} {after : σ} :
      raws = before ++ bad :: rest → before.map Wire.chunk = chunks.map .ok →
      Wire.chunk bad = .error fault → sub.Takes state chunks after →
      Stops sub ending raws state chunks (some fault) after
  | refused {before rest : List Value} {chunks : List PartialChunk} {chunk : PartialChunk}
      {fault : Fault} {between after : σ} :
      raws = before ++ rest → before.map Wire.chunk = (chunks ++ [chunk]).map .ok →
      sub.Takes state chunks between → sub.onNext chunk between = (.error fault, after) →
      Stops sub ending raws state (chunks ++ [chunk]) (some fault) after

/-- The first failure of a stream, if there is one, with the chunks that the subscriber was
    called with until then and the state that these calls left. -/
inductive Meets (sub : Subscriber σ) (raw : RawStream) (state : σ) :
    List PartialChunk → Option Fault → σ → Prop where
  | unopened {fault : Fault} :
      raw.openFault = some fault → Meets sub raw state [] (some fault) state
  | opened {chunks : List PartialChunk} {failure : Option Fault} {after : σ} :
      raw.openFault = none → sub.Stops raw.pushedEnding raw.chunks state chunks failure after →
      Meets sub raw state chunks failure after

/-- The calls of a run and its result, by the first failure of the stream.  `earlier` are the
    calls that were made until then. -/
inductive EndsBy (sub : Subscriber σ) (earlier : List Call) (after : σ) :
    Option Fault → List Call → Outcome Unit × σ → Prop where
  | completed :
      EndsBy sub earlier after none (earlier ++ [.complete]) (sub.onComplete after)
  /-- After a cancellation was told, it goes on. -/
  | cancelled {fault closed : Fault} {told : σ} :
      fault.isCancellation = true → closed.SaysClosed →
      sub.onError closed after = (.ok (), told) →
      EndsBy sub earlier after (some fault) (earlier ++ [.error closed]) (.error fault, told)
  /-- What is raised while a cancellation is told takes its place. -/
  | cancelledBadly {fault closed raised : Fault} {told : σ} :
      fault.isCancellation = true → closed.SaysClosed →
      sub.onError closed after = (.error raised, told) →
      EndsBy sub earlier after (some fault) (earlier ++ [.error closed]) (.error raised, told)
  /-- A failure of the provider's client is wrapped. -/
  | wrapped {fault wrapping : Fault} :
      fault.kind.isVendor = true → wrapping.Wraps fault →
      EndsBy sub earlier after (some fault) (earlier ++ [.error wrapping])
        (sub.onError wrapping after)
  | unchanged {fault : Fault} :
      fault.isOrdinary = true → fault.kind.isVendor = false →
      EndsBy sub earlier after (some fault) (earlier ++ [.error fault])
        (sub.onError fault after)
  /-- Every interrupt but a cancellation goes on at once. -/
  | interrupted {fault : Fault} :
      fault.isOrdinary = false → fault.isCancellation = false →
      EndsBy sub earlier after (some fault) earlier (.error fault, after)

-- ── The loop over the chunks ───────────────────────────────────────────────────────

/-- A chunk that is taken comes before whatever stops the rest. -/
theorem Stops.cons {sub : Subscriber σ} {ending failure : Option Fault} {raw : Value}
    {rest : List Value} {state between after : σ} {chunk : PartialChunk}
    {chunks : List PartialChunk} (hchunk : Wire.chunk raw = .ok chunk)
    (hnext : sub.onNext chunk state = (.ok (), between))
    (h : sub.Stops ending rest between chunks failure after) :
    sub.Stops ending (raw :: rest) state (chunk :: chunks) failure after := by
  cases h with
  | usedUp hread htakes =>
      refine .usedUp ?_ (.cons hnext htakes)
      rw [List.map_cons, List.map_cons, hchunk, hread]
  | @unread before rest' bad _ _ _ hraws hread hbad htakes =>
      have hraws' : raw :: rest = (raw :: before) ++ bad :: rest' := by
        rw [hraws, List.cons_append]
      refine .unread hraws' ?_ hbad (.cons hnext htakes)
      rw [List.map_cons, List.map_cons, hchunk, hread]
  | @refused before rest' chunks last _ _ _ hraws hread htakes hrefuses =>
      have hraws' : raw :: rest = (raw :: before) ++ rest' := by rw [hraws, List.cons_append]
      rw [← List.cons_append]
      refine .refused hraws' ?_ (.cons hnext htakes) hrefuses
      rw [List.cons_append, List.map_cons, List.map_cons, hchunk, hread]

/-- The chunks of a stream are stopped by something. -/
theorem stops_total (sub : Subscriber σ) (ending : Option Fault) (raws : List Value)
    (state : σ) : ∃ chunks failure after, sub.Stops ending raws state chunks failure after := by
  induction raws generalizing state with
  | nil => exact ⟨[], ending, state, .usedUp rfl (.nil state)⟩
  | cons raw rest ih =>
      cases hchunk : Wire.chunk raw with
      | error fault =>
          have hfirst : raw :: rest = [] ++ raw :: rest := rfl
          exact ⟨[], some fault, state, .unread hfirst rfl hchunk (.nil state)⟩
      | ok chunk =>
          rcases hnext : sub.onNext chunk state with ⟨outcome, between⟩
          cases outcome with
          | error fault =>
              have hfirst : raw :: rest = [raw] ++ rest := rfl
              refine ⟨[] ++ [chunk], some fault, between,
                .refused hfirst ?_ (.nil state) hnext⟩
              rw [List.map_singleton, hchunk]
              rfl
          | ok u =>
              obtain ⟨chunks, failure, after, hstops⟩ := ih between
              exact ⟨chunk :: chunks, failure, after, hstops.cons hchunk hnext⟩

/-- Chunks that are taken are delivered, and the loop goes on with the rest. -/
theorem deliver_takes {sub : Subscriber σ} {state after : σ} {chunks : List PartialChunk}
    (htakes : sub.Takes state chunks after) {before : List Value}
    (hread : before.map Wire.chunk = chunks.map .ok) (ending : Option Fault)
    (rest : List Value) :
    sub.deliver ending (before ++ rest) state = sub.deliver ending rest after := by
  induction htakes generalizing before with
  | nil state =>
      rw [List.map_eq_nil_iff.mp hread, List.nil_append]
  | cons hnext htakes ih =>
      cases before with
      | nil => exact nomatch hread
      | cons raw before =>
          obtain ⟨hchunk, hread⟩ := List.cons.inj hread
          rw [List.cons_append, deliver, hchunk]
          dsimp only
          rw [hnext]
          exact ih hread

/-- **However the chunks of a stream are stopped, the loop comes to the end that follows.** -/
theorem deliver_stops {sub : Subscriber σ} {ending failure : Option Fault} {raws : List Value}
    {state after : σ} {chunks : List PartialChunk}
    (h : sub.Stops ending raws state chunks failure after) :
    sub.deliver ending raws state = sub.finish failure after := by
  cases h with
  | usedUp hread htakes =>
      have hall := deliver_takes htakes hread ending []
      rwa [List.append_nil, deliver] at hall
  | unread hraws hread hbad htakes =>
      rw [hraws, deliver_takes htakes hread, deliver, hbad]
      rfl
  | @refused before rest chunks chunk fault between after hraws hread htakes hrefuses =>
      -- the chunk over which the call raises is the last that is read
      rw [List.map_append, List.map_singleton] at hread
      obtain ⟨taken, last, rfl, htaken, hlast⟩ := List.map_eq_append_iff.mp hread
      obtain ⟨raw, rfl, hchunk⟩ : ∃ raw, last = [raw] ∧ Wire.chunk raw = .ok chunk := by
        cases last with
        | nil => exact nomatch hlast
        | cons raw more =>
            obtain ⟨hchunk, hmore⟩ := List.cons.inj hlast
            exact ⟨raw, by rw [List.map_eq_nil_iff.mp hmore], hchunk⟩
      rw [hraws, List.append_assoc, deliver_takes htakes htaken, List.singleton_append, deliver,
        hchunk]
      dsimp only
      rw [hrefuses]
      rfl

-- ── Noting the calls ───────────────────────────────────────────────────────────────

theorem Takes.noting {sub : Subscriber σ} {state after : σ} {chunks : List PartialChunk}
    (h : sub.Takes state chunks after) (earlier : List Call) :
    sub.noting.Takes (earlier, state) chunks (earlier ++ chunks.map .next, after) := by
  induction h generalizing earlier with
  | nil state =>
      rw [List.map_nil, List.append_nil]
      exact .nil _
  | @cons state between after chunk chunks hnext htakes ih =>
      have hnoted : sub.noting.onNext chunk (earlier, state)
          = (.ok (), earlier ++ [.next chunk], between) := by
        rw [Subscriber.noting]
        dsimp only [noted]
        rw [hnext]
      have hrest := ih (earlier ++ [.next chunk])
      rw [List.append_assoc, List.singleton_append, ← List.map_cons] at hrest
      exact .cons hnoted hrest

/-- A subscriber that notes its calls is stopped by the same. -/
theorem Stops.noting {sub : Subscriber σ} {ending failure : Option Fault} {raws : List Value}
    {state after : σ} {chunks : List PartialChunk}
    (h : sub.Stops ending raws state chunks failure after) (earlier : List Call) :
    sub.noting.Stops ending raws (earlier, state) chunks failure
      (earlier ++ chunks.map .next, after) := by
  cases h with
  | usedUp hread htakes => exact .usedUp hread (htakes.noting earlier)
  | unread hraws hread hbad htakes => exact .unread hraws hread hbad (htakes.noting earlier)
  | @refused before rest chunks chunk fault between after hraws hread htakes hrefuses =>
      refine .refused hraws hread (htakes.noting earlier) ?_
      rw [Subscriber.noting]
      dsimp only [noted]
      rw [hrefuses, List.map_append, List.map_singleton, List.append_assoc]

/-- **The end of a stream makes the final call that follows from it.** -/
theorem finish_endsBy (sub : Subscriber σ) (failure : Option Fault) (earlier : List Call)
    (after : σ) :
    ∃ calls, sub.noting.finish failure (earlier, after)
        = ((sub.finish failure after).1, calls, (sub.finish failure after).2)
      ∧ sub.EndsBy earlier after failure calls (sub.finish failure after) := by
  cases failure with
  | none => exact ⟨_, rfl, .completed⟩
  | some fault =>
      rw [finish, finish, abort, abort]
      cases hcancels : fault.isCancellation with
      | true =>
          rw [if_pos rfl, if_pos rfl]
          refine ⟨earlier ++ [.error transportClosed], ?_⟩
          rw [show sub.noting.onError transportClosed (earlier, after)
            = ((sub.onError transportClosed after).1, earlier ++ [.error transportClosed],
                (sub.onError transportClosed after).2) from rfl]
          rcases htell : sub.onError transportClosed after with ⟨outcome, told⟩
          cases outcome with
          | ok u => exact ⟨rfl, .cancelled hcancels saysClosed_transportClosed htell⟩
          | error raised =>
              exact ⟨rfl, .cancelledBadly hcancels saysClosed_transportClosed htell⟩
      | false =>
          rw [if_neg Bool.false_ne_true, if_neg Bool.false_ne_true]
          cases hordinary : fault.isOrdinary with
          | false =>
              rw [if_neg Bool.false_ne_true, if_neg Bool.false_ne_true]
              exact ⟨earlier, rfl, .interrupted hordinary hcancels⟩
          | true =>
              rw [if_pos rfl, if_pos rfl, Wire.relayed]
              refine ⟨_, rfl, ?_⟩
              cases hvendor : fault.kind.isVendor with
              | true => exact .wrapped hvendor (Fault.wraps_wrapped hvendor)
              | false => exact .unchanged hordinary hvendor

-- ── The whole run ──────────────────────────────────────────────────────────────────

/-- A stream is met in some way. -/
theorem meets_total (sub : Subscriber σ) (raw : RawStream) (state : σ) :
    ∃ chunks failure after, sub.Meets raw state chunks failure after := by
  cases hopening : raw.openFault with
  | some fault => exact ⟨[], some fault, state, .unopened hopening⟩
  | none =>
      obtain ⟨chunks, failure, after, hstops⟩ :=
        stops_total sub raw.pushedEnding raw.chunks state
      exact ⟨chunks, failure, after, .opened hopening hstops⟩

/-- However a stream is met, the run comes to the end that follows. -/
theorem consume_meets {sub : Subscriber σ} {raw : RawStream} {state after : σ}
    {chunks : List PartialChunk} {failure : Option Fault}
    (h : sub.Meets raw state chunks failure after) :
    sub.consume raw state = sub.finish failure after
      ∧ sub.noting.consume raw ([], state)
        = sub.noting.finish failure (chunks.map .next, after) := by
  cases h with
  | unopened hopening =>
      rw [consume, consume, hopening]
      exact ⟨rfl, rfl⟩
  | opened hopening hstops =>
      rw [consume, consume, hopening]
      exact ⟨deliver_stops hstops, deliver_stops (hstops.noting [])⟩

/-- A completion is called only where nothing failed. -/
theorem EndsBy.complete_mem {sub : Subscriber σ} {chunks : List PartialChunk} {after : σ}
    {failure : Option Fault} {calls : List Call} {result : Outcome Unit × σ}
    (h : sub.EndsBy (chunks.map .next) after failure calls result) :
    .complete ∈ calls ↔ failure = none := by
  have hchunks : Call.complete ∉ chunks.map Call.next := by
    intro hmem
    obtain ⟨chunk, -, hcall⟩ := List.mem_map.mp hmem
    exact nomatch hcall
  cases h with
  | completed => simp
  | interrupted => simp [hchunks]
  | _ => simp [hchunks]

/-- **A SOURCE MAKES ONE FINAL CALL, AND MAKES IT LAST.**  Whatever a provider's client does and
    whatever the calls raise, the stream is met in some way: chunks that were read and handed
    over in order, until the stream was used up or something failed.  Then one final call
    follows: the completion where nothing failed, a closed transport where the run was cancelled,
    and else the first failure, wrapped if it is one of a provider's client.  A cancellation goes
    on afterwards, unless the call itself raises something; only an interrupt of another kind
    goes on at once, without a call. -/
theorem final_call_last (sub : Subscriber σ) (raw : RawStream) (state : σ) :
    ((sub.noting.consume raw ([], state)).1, (sub.noting.consume raw ([], state)).2.2)
        = sub.consume raw state
      ∧ (∃ chunks failure after, sub.Meets raw state chunks failure after)
      ∧ (∀ chunks failure after, sub.Meets raw state chunks failure after →
          sub.EndsBy (chunks.map .next) after failure
            (sub.noting.consume raw ([], state)).2.1 (sub.consume raw state))
      ∧ (.complete ∈ (sub.noting.consume raw ([], state)).2.1
          ↔ ∃ chunks after, sub.Meets raw state chunks none after) := by
  have hrun {chunks : List PartialChunk} {failure : Option Fault} {after : σ}
      (hmeets : sub.Meets raw state chunks failure after) :
      ∃ calls, sub.noting.consume raw ([], state)
          = ((sub.consume raw state).1, calls, (sub.consume raw state).2)
        ∧ sub.EndsBy (chunks.map .next) after failure calls (sub.consume raw state) := by
    obtain ⟨hplain, hnoting⟩ := consume_meets hmeets
    rw [hplain, hnoting]
    exact finish_endsBy sub failure (chunks.map .next) after
  obtain ⟨chunks, failure, after, hmeets⟩ := meets_total sub raw state
  obtain ⟨calls, hcalls, hends⟩ := hrun hmeets
  refine ⟨by rw [hcalls], ⟨chunks, failure, after, hmeets⟩, ?_, ?_⟩
  · intro chunks failure after hmeets
    obtain ⟨calls, hcalls, hends⟩ := hrun hmeets
    rw [hcalls]
    exact hends
  · constructor
    · intro hcomplete
      rw [hcalls] at hcomplete
      rw [hends.complete_mem.mp hcomplete] at hmeets
      exact ⟨chunks, after, hmeets⟩
    · rintro ⟨chunks, after, hmeets⟩
      obtain ⟨calls, hcalls, hends⟩ := hrun hmeets
      rw [hcalls]
      exact hends.complete_mem.mpr rfl

-- ── A subscriber that cannot bear failures ─────────────────────────────────────────

/-- A subscriber that raises something when it is told of a failure. -/
def sulking : Subscriber Unit where
  onNext _ state := (.ok (), state)
  onError _ state := (.error .wrongValue, state)
  onComplete state := (.ok (), state)

/-- A stream that cannot be opened. -/
def unopenable (fault : Fault) : RawStream :=
  ⟨some fault, [], none, false, false, none⟩

/-- A cancellation does not go on where the final call itself raises something, and an interrupt
    of another kind leads to no final call. -/
theorem cancellation_replaced :
    sulking.noting.consume (unopenable cancelled) ([], ())
        = (.error .wrongValue, [.error transportClosed], ())
      ∧ Fault.wrongValue.isCancellation = false
      ∧ sulking.noting.consume (unopenable (.of (.interrupt "KeyboardInterrupt") "")) ([], ())
        = (.error (.of (.interrupt "KeyboardInterrupt") ""), [], ()) :=
  ⟨rfl, rfl, rfl⟩

end Subscriber

end CompletionStream
