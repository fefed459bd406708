import CompletionStream.Proofs.Gateway.Modes
import CompletionStream.Proofs.Wire.Faults

/-!
# Failures — how the first failure of a stream is told

A provider's stream can fail in four places: it cannot be opened, a chunk cannot be read, the
handler raises something over a text, or the stream breaks after its last chunk.  `Breaks` says
which comes first, and of which texts the handler is told until then.

What the provider's client raised is wrapped if it is a failure of the client's own kind; all
else is told as it is, even a failure of that kind if it is the handler that raised it
(`ToldAs`).  The reference run of a pulled stream ends so (`pulled_breaks`), hence a request
that pulls does, and a request that is pushed to is told the same (`chat_alike`).
-/

namespace CompletionStream

/-- Who is behind a failure of a stream. -/
inductive Source where
  /-- The provider's client, while the stream is opened or afterwards. -/
  | client
  /-- A chunk that cannot be read. -/
  | chunk
  /-- The handler, over a text. -/
  | handler
  deriving DecidableEq

namespace Source

/-- A failure as it is told. -/
def told : Source → Fault → Fault
  | .client, fault => Wire.relayed fault
  | _, fault => fault

/-- How a failure is told. -/
structure ToldAs (source : Source) (fault told : Fault) : Prop where
  /-- A failure of the client's own kind is wrapped if the client raised it: it is named, its
      status is kept, and it stands behind the wrapping as it was. -/
  wrapped : source = .client → fault.kind.isVendor = true →
    told.name = "TransportError" ∧ told.message = fault.name ++ ": " ++ fault.message
      ∧ told.status? = some (fault.status?.getD .null) ∧ told.cause? = some fault
  unchanged : source ≠ .client ∨ fault.kind.isVendor = false → told = fault

theorem toldAs_told (source : Source) (fault : Fault) :
    source.ToldAs fault (source.told fault) where
  wrapped := by
    rintro rfl hvendor
    obtain ⟨hname, hmessage, hstatus, hcause⟩ := Fault.wraps_wrapped hvendor
    rw [told, Wire.relayed, if_pos hvendor]
    exact ⟨hname, hmessage, hstatus, hcause⟩
  unchanged := by
    rintro (hsource | hvendor)
    · cases source with
      | client => exact absurd rfl hsource
      | _ => rfl
    · cases source with
      | client =>
          rw [told, Wire.relayed, hvendor]
          rfl
      | _ => rfl

end Source

-- ── The first failure ──────────────────────────────────────────────────────────────

/-- The first failure of a provider's stream for a handler, who is behind it, and the texts that
    the handler is told of until then. -/
inductive RawStream.Breaks (raw : RawStream) (handler : Handler) :
    List String → Source → Fault → Prop where
  | unopened {fault : Fault} : raw.openFault = some fault → Breaks raw handler [] .client fault
  | unread {before rest : List Value} {bad : Value} {chunks : List PartialChunk}
      {fault : Fault} :
      raw.openFault = none → raw.chunks = before ++ bad :: rest →
      before.map Wire.chunk = chunks.map .ok → Wire.chunk bad = .error fault →
      (handler.hears 0 (Reference.texts chunks)).2 = none →
      Breaks raw handler (Reference.texts chunks) .chunk fault
  | refused {before rest : List Value} {chunks : List PartialChunk} {texts : List String}
      {fault : Fault} :
      raw.openFault = none → raw.chunks = before ++ rest →
      before.map Wire.chunk = chunks.map .ok →
      handler.hears 0 (Reference.texts chunks) = (texts, some fault) →
      Breaks raw handler texts .handler fault
  | severed {chunks : List PartialChunk} {fault : Fault} :
      raw.openFault = none → raw.chunks.map Wire.chunk = chunks.map .ok →
      (handler.hears 0 (Reference.texts chunks)).2 = none → raw.ending = some fault →
      Breaks raw handler (Reference.texts chunks) .client fault

/-- Chunks that can be read come before what the rest is read as. -/
theorem decodeAll_append {before : List Value} {chunks : List PartialChunk}
    (h : before.map Wire.chunk = chunks.map .ok) (rest : List Value) :
    decodeAll (before ++ rest) = (chunks ++ (decodeAll rest).1, (decodeAll rest).2) := by
  induction before generalizing chunks with
  | nil =>
      rw [List.map_eq_nil_iff.mp h.symm]
      rfl
  | cons raw before ih =>
      cases chunks with
      | nil => exact nomatch h
      | cons chunk chunks =>
          obtain ⟨hchunk, hrest⟩ := List.cons.inj h
          rw [List.cons_append, decodeAll, hchunk]
          dsimp only
          rw [ih hrest]
          rfl

/-- Why a chunk cannot be read is told as it is. -/
theorem decodeAll_plain (raws : List Value) : ∀ fault ∈ (decodeAll raws).2, fault.Plain := by
  induction raws with
  | nil => exact fun fault hfault => nomatch hfault
  | cons raw rest ih =>
      rw [decodeAll]
      cases hchunk : Wire.chunk raw with
      | error fault =>
          rintro fault ⟨⟩
          exact Wire.plain_chunk raw fault hchunk
      | ok chunk => exact ih

namespace RawStream

/-- What closing raises. -/
def closing (raw : RawStream) : Option Fault :=
  if raw.closable then raw.closeFault else none

/-- What a provider's client raises is ordinary, also when its stream is closed. -/
structure Ordinary (raw : RawStream) : Prop where
  opening : ∀ fault ∈ raw.openFault, fault.isOrdinary = true
  ending : ∀ fault ∈ raw.ending, fault.isOrdinary = true
  closing : ∀ fault ∈ raw.closing, fault.isOrdinary = true

/-- A provider's stream that was opened, as a stream to pull. -/
def opened (raw : RawStream) : PullStream where
  chunks := (decodeAll raw.chunks).1
  ending := (decodeAll raw.chunks).2.or (raw.ending.map Wire.relayed)
  closesItself := true
  closable := raw.closable
  closeFault := raw.closeFault

variable {raw : RawStream}

theorem toPull_opened (h : raw.openFault = none) : raw.toPull = .ok raw.opened := by
  rw [toPull, h]
  rfl

/-- What is told of a stream's end is ordinary. -/
theorem Ordinary.opened (h : raw.Ordinary) : raw.opened.Ordinary where
  ending := by
    intro fault hfault
    rcases Option.or_eq_some_iff.mp hfault with hread | ⟨-, hending⟩
    · exact (decodeAll_plain _ fault hread).ordinary
    · exact Session.relayed_ending h.ending fault hending
  closing := h.closing

theorem Ordinary.opens (h : raw.Ordinary) : PullStream.Opens raw.toPull := by
  cases hopening : raw.openFault with
  | some fault =>
      rw [toPull, hopening]
      exact Wire.relayed_ordinary (h.opening fault hopening)
  | none =>
      rw [toPull_opened hopening]
      exact h.opened

namespace Steady

theorem closing_none (h : raw.Steady) : raw.closing = none := by
  rw [RawStream.closing]
  split
  · exact h.closing ‹_›
  · rfl

theorem ordinary (h : raw.Steady) : raw.Ordinary where
  opening := h.opening
  ending := h.ending
  closing := by
    rw [h.closing_none]
    exact fun fault hfault => nomatch hfault

/-- Closing a steady stream does not change how it ends. -/
theorem lastFault (h : raw.Steady) : raw.opened.lastFault = raw.opened.ending := by
  rw [PullStream.lastFault, show raw.opened.closing = none from h.closing_none]
  rfl

/-- **The reference run of a stream that breaks ends with its first failure.** -/
theorem pulled_breaks (h : raw.Steady) {handler : Handler} {texts : List String}
    {source : Source} {fault : Fault} (hbreaks : raw.Breaks handler texts source fault)
    (conclude : List PartialChunk → Outcome Response) :
    Reference.pulled handler raw.toPull conclude = (texts, .error (source.told fault)) := by
  cases hbreaks with
  | unopened hopening =>
      rw [RawStream.toPull, hopening]
      rfl
  | unread hopening hraws hread hbad hraises =>
      rw [RawStream.toPull_opened hopening, Reference.pulled, h.lastFault, RawStream.opened, hraws,
        decodeAll_append hread, decodeAll, hbad, List.append_nil]
      dsimp only
      rw [Handler.hears_all hraises]
      rfl
  | refused hopening hraws hread hrefuses =>
      rw [RawStream.toPull_opened hopening, Reference.pulled, RawStream.opened, hraws,
        decodeAll_append hread]
      dsimp only
      rw [Reference.texts_append, Handler.hears_append_some (congrArg Prod.snd hrefuses), hrefuses]
      rfl
  | severed hopening hread hraises hending =>
      have hdecode := decodeAll_append hread []
      rw [List.append_nil, decodeAll, List.append_nil] at hdecode
      rw [RawStream.toPull_opened hopening, Reference.pulled, h.lastFault, RawStream.opened,
        hdecode, hending]
      dsimp only
      rw [Handler.hears_all hraises]
      rfl

end Steady

end RawStream

-- ── Requests ───────────────────────────────────────────────────────────────────────

namespace Client

/-- A request over a transport that pulls a provider's stream hears what the stream's reference
    run tells. -/
theorem chat_pulls {c : Client} {r : ChatRequest} {handler : Handler} {scene counted : Scene}
    {p : Prepared} (hprepare : c.prepare r scene = (.ok p, counted))
    (hlisteners : ∀ l ∈ c.listeners, l.Ordinary) (hhandler : handler.Ordinary)
    (hestimator : c.estimator.Ordinary) {remote : Remote}
    (hopens : PullStream.Opens remote.raw.toPull) (deployment : Value) (number : Nat)
    {x : Exchange} (hx : x = ⟨p.request, c.provider, number, number⟩) :
    ∃ report told, c.chat (remote.transport .sync deployment) r handler number scene
        = (.ok (), report)
      ∧ told = Reference.pulled handler remote.raw.toPull (fun chunks =>
          Reference.billed chunks c.estimator p.inputTokens { counted.tally with log := [] })
      ∧ report.asked = some p.options
      ∧ report.scene.heard = scene.heard ++ Listener.round (.started x) c.listeners
          ++ told.1.map .partialText ++ x.ending c.listeners told.2 := by
  exact @chat_pulled c (fun _ => remote.openPull deployment) r handler scene counted p hprepare
    hlisteners hhandler hestimator hopens number x hx

/-- **THE FIRST FAILURE OF A STREAM IS TOLD ALIKE TO ALL.**  Over a transport of either mode, a
    request whose stream fails comes to an end: the handler is told of the texts before the
    failure, then every listener and the handler are told of that failure, wrapped if and only
    if it is one of the provider's client that the client itself raised, and of nothing more. -/
theorem first_failure_told {c : Client} {r : ChatRequest} {handler : Handler}
    {scene counted : Scene} {p : Prepared} (hprepare : c.prepare r scene = (.ok p, counted))
    (hlisteners : ∀ l ∈ c.listeners, l.Ordinary) (hhandler : handler.Ordinary)
    (hestimator : c.estimator.Ordinary) {remote : Remote} (hraw : remote.raw.Steady)
    {texts : List String} {source : Source} {fault : Fault}
    (hbreaks : remote.raw.Breaks handler texts source fault) (deployment : Value)
    (number : Nat) :
    ∃ x told, x = Exchange.mk p.request c.provider number number
      ∧ source.ToldAs fault told
      ∧ ∀ mode, ∃ report,
          c.chat (remote.transport mode deployment) r handler number scene = (.ok (), report)
          ∧ report.scene.heard = scene.heard ++ Listener.round (.started x) c.listeners
              ++ texts.map .partialText
              ++ (Listener.round (.failed x told) c.listeners ++ [.failure told]) := by
  refine ⟨_, source.told fault, rfl, source.toldAs_told fault, ?_⟩
  obtain ⟨pulling, told, hpulling, htold, -, hheard⟩ :=
    chat_pulls hprepare hlisteners hhandler hestimator hraw.ordinary.opens deployment number rfl
  rw [hraw.pulled_breaks hbreaks] at htold
  rw [htold] at hheard
  intro mode
  cases mode with
  | sync => exact ⟨pulling, hpulling, hheard⟩
  | async =>
      have halike := chat_alike hlisteners hestimator hhandler hraw deployment r number scene
      rw [hpulling] at halike
      rcases hpushing : c.chat (remote.transport .async deployment) r handler number scene with
        ⟨outcome, pushing⟩
      rw [hpushing] at halike
      refine ⟨pushing, by rw [← show _ = outcome from halike.outcome], ?_⟩
      have htimeline := congrArg Scene.timeline halike.scene
      have hsame : pulling.scene.heard = _ := congrArg (List.map Entry.bare) htimeline
      exact hsame.symm.trans hheard

-- ── A stream that breaks over a failure of the provider's client ───────────────────

/-- A stream that breaks after one text because there were too many requests. -/
def severed : RawStream where
  openFault := none
  chunks := [.object [("choices", .list [.object [("delta", .object [("content", .str "a")])]])]]
  ending := some (.of (.vendor "RateLimitError" (some (.int 429))) "slow down")
  stalls := false
  closable := true
  closeFault := none

theorem severed_steady : severed.Steady where
  opening fault hfault := nomatch hfault
  ending fault hfault := by rw [← Option.some.inj hfault]; rfl
  running := rfl
  closing _ := rfl

/-- The failure is wrapped for the observer and for the handler, in both modes. -/
theorem first_failure_told_severed :
    ∃ x told, told.message = "RateLimitError: slow down" ∧ told.status? = some (.int 429)
      ∧ told.cause? = severed.ending
      ∧ ∀ mode, ∃ report,
          (simple [.observer .surly, .silent]).chat
              (Remote.transport ⟨true, severed, .idle "loop"⟩ mode (.str "d")) greeting fickle 0
              (.fresh []) = (.ok (), report)
          ∧ report.scene.heard
            = [.notice 0 "surly" (.started x) [], .partialText "a",
                .notice 0 "surly" (.failed x told) [], .failure told] := by
  have hbreaks : severed.Breaks fickle (Reference.texts [⟨some "a", none, none, none, none, []⟩])
      .client (.of (.vendor "RateLimitError" (some (.int 429))) "slow down") :=
    .severed rfl rfl rfl rfl
  obtain ⟨x, told, -, htold, hchats⟩ :=
    @first_failure_told (simple [.observer .surly, .silent]) greeting fickle (.fresh []) _ _ rfl
      Observer.surly_ordinary fickle_ordinary (simple_ordinary _)
      ⟨true, severed, .idle "loop"⟩ severed_steady _ _ _ hbreaks (.str "d") 0
  obtain ⟨-, hmessage, hstatus, hcause⟩ := htold.wrapped rfl rfl
  refine ⟨x, told, hmessage, hstatus, hcause, fun mode => ?_⟩
  obtain ⟨report, hchat, hheard⟩ := hchats mode
  refine ⟨report, hchat, ?_⟩
  rw [hheard]
  rfl

end Client

end CompletionStream
