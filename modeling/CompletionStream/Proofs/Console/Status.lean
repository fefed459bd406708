import CompletionStream.Proofs.Console.Asking
import CompletionStream.Proofs.Counting.Estimates
import CompletionStream.Proofs.Gateway.Calm
import CompletionStream.Proofs.Gateway.Sending
import CompletionStream.Proofs.Session.Script
import CompletionStream.Proofs.Settings.Independence

/-!
# Status — what the status of a run says

A run whose settings load ends with a status.  Before its request is sent the library may refuse
the settings or the request (`Refused`); after that the printer is told of texts, and then that
the response is complete or that it has failed (`Completes`, `Fails`).  `send_told` says that a
gateway that was assembled gets that far if the words that it asks with can be counted
(`WordsTaken`): it tells of all texts that the stream delivers, and its one ending is a failure if
the stream has a flaw, or if its response cannot be counted (`Reference.Priced`).

So each status stands for one of the three, and what the printer has written is what it was told
(`status_tells`).  The one way around them is a text that the encoding refuses among the words
that a run asks with: the fault leaves the run, which has printed and sent nothing by then
(`withSettings_uncounted`).
-/

namespace CompletionStream

-- ── What is told ───────────────────────────────────────────────────────────────────

/-- How an outcome is told to a handler. -/
def Entry.ending : Outcome Response → Entry
  | .ok response => .completion response
  | .error fault => .failure fault

theorem Entry.isNotice_ending (outcome : Outcome Response) :
    (ending outcome).isNotice = false := by
  cases outcome <;> rfl

theorem Entry.isNotice_bare (entry : Entry) : entry.bare.isNotice = entry.isNotice := by
  cases entry <;> rfl

/-- What was heard is what was told, where nobody but the handler was told anything. -/
theorem Scene.timeline_of_heard {scene : Scene} {entries : List Entry}
    (h : scene.heard = entries) (hvoiced : ∀ entry ∈ entries, entry.isNotice = false) :
    scene.timeline = entries := by
  have hbare : ∀ entry ∈ scene.timeline, entry.bare = id entry := by
    intro entry hentry
    refine Entry.bare_voiced ?_
    rw [← entry.isNotice_bare]
    exact hvoiced _ (h ▸ List.mem_map_of_mem hentry)
  rw [← h, Scene.heard, List.map_congr_left hbare, List.map_id]

namespace RawStream

/-- The texts that a stream delivers. -/
def delivered (raw : RawStream) : List String :=
  match raw.openFault with
  | some _ => []
  | none => Reference.texts raw.opened.chunks

/-- What is told of a stream in the place of a response: that it could not be opened, that it
    could not be closed, or how it failed. -/
def flaw (raw : RawStream) : Option Fault :=
  match raw.openFault with
  | some fault => some (Wire.relayed fault)
  | none => raw.closing.or raw.opened.ending

theorem delivered_under (raw : RawStream) (mode : Mode) :
    (raw.under mode).delivered = raw.delivered := by
  cases mode <;> rfl

/-- A stream without a flaw was opened. -/
theorem delivered_flawless {raw : RawStream} (h : raw.flaw = none) :
    raw.delivered = Reference.texts raw.opened.chunks := by
  cases hopening : raw.openFault with
  | some fault =>
      rw [flaw, hopening] at h
      exact nomatch h
  | none => rw [delivered, hopening]

/-- What a stream delivers says something. -/
theorem delivered_spoken (raw : RawStream) : ∀ text ∈ raw.delivered, text ≠ "" := by
  intro text htext
  rw [delivered] at htext
  split at htext
  · exact absurd htext List.not_mem_nil
  · obtain ⟨chunk, -, hspoken⟩ := List.mem_filterMap.mp htext
    exact of_decide_eq_true (Option.filter_eq_some_iff.mp hspoken).2

/-- A handler that never fails is told of all texts, and of the flaw if there is one. -/
theorem pulled_steady (raw : RawStream) (conclude : List PartialChunk → Outcome Response) :
    Reference.pulled .steady raw.toPull conclude
      = (raw.delivered, Reference.failedOr raw.flaw (conclude raw.opened.chunks)) := by
  cases hopening : raw.openFault with
  | some fault =>
      rw [toPull, delivered, flaw, hopening]
      rfl
  | none =>
      have hused : raw.UsedUp .steady := by
        refine ⟨hopening, ?_⟩
        rw [Handler.hears_steady]
      rw [pulled_usedUp hused, delivered, flaw, hopening]

end RawStream

namespace Reference

/-- The texts that the cost of a response is estimated from: those of the calls it asks for or,
    if it asks for none, its content. -/
def pricedTexts (chunks : List PartialChunk) : List String :=
  if (calls chunks).isEmpty then [content chunks] else Tally.toolCallTexts (calls chunks)

/-- The cost of a response can be told: it was reported, or none of the texts that it is estimated
    from is refused. -/
def Priced (encoding : Encoding) (chunks : List PartialChunk) : Prop :=
  (reported chunks).isSome ∨ encoding.Takes (pricedTexts chunks)

/-- What is not reported is counted over the vocabulary. -/
theorem counted_vocabulary (chunks : List PartialChunk) (vocabulary : Vocabulary)
    (model : String) (tally : Tally) :
    (counted chunks (some (.vocabulary vocabulary model)) tally).1
      = (reported chunks).elim
          (Tally.amount (tally.current vocabulary model) (pricedTexts chunks)) .ok := by
  rw [counted.eq_def, pricedTexts]
  cases reported chunks with
  | some n => rfl
  | none =>
      dsimp only [Option.elim_none]
      split
      · exact (Tally.countText_eq vocabulary model (content chunks) tally).1
      · exact (Tally.countTexts_eq vocabulary model _ tally).1

/-- **There is a response exactly if its cost can be told.** -/
theorem billed_vocabulary (chunks : List PartialChunk) (vocabulary : Vocabulary)
    (model : String) (inputTokens : Int) (tally : Tally) :
    (Priced (tally.current vocabulary model) chunks →
        ∃ n, billed chunks (.vocabulary vocabulary model) inputTokens tally
          = .ok (response chunks ⟨inputTokens, n, inputTokens + n⟩))
      ∧ (¬ Priced (tally.current vocabulary model) chunks →
        billed chunks (.vocabulary vocabulary model) inputTokens tally = .error .wrongValue) := by
  rw [billed, counted_vocabulary, Priced]
  cases reported chunks with
  | some n => exact ⟨fun _ => ⟨n, rfl⟩, fun hnot => absurd (.inl rfl) hnot⟩
  | none =>
      rw [Option.elim_none]
      constructor
      · rintro (hreported | htakes)
        · exact absurd hreported Bool.false_ne_true
        · rw [Tally.amount_taken htakes]
          exact ⟨_, rfl⟩
      · intro hnot
        rw [Tally.amount_refused fun htakes => hnot (.inr htakes)]
        rfl

end Reference

-- ── What is printed ────────────────────────────────────────────────────────────────

namespace Console

/-- Texts are printed in a row. -/
theorem Printer.tellAll_texts (p : Printer) (texts : List String) (rest : List Entry) :
    p.tellAll (texts.map .partialText ++ rest)
      = { p with out := p.out ++ String.join texts }.tellAll rest := by
  induction texts generalizing p with
  | nil =>
      rw [String.join_nil, String.append_empty]
      rfl
  | cons text texts ih =>
      show (p.write text).tellAll (texts.map .partialText ++ rest) = _
      rw [ih, write, String.join_cons, String.append_assoc]

/-- A response is printed behind its texts. -/
theorem Printer.tellAll_completion (texts : List String) (r : Response) :
    (fresh.tellAll (texts.map .partialText ++ [.completion r])).error = none
      ∧ (fresh.tellAll (texts.map .partialText ++ [.completion r])).out
        = String.join texts ++ "\n" ++ String.join (r.toolCalls.map callLine) := by
  rw [tellAll_texts, show fresh.out = "" from rfl, String.empty_append]
  exact ⟨rfl, rfl⟩

/-- Nothing is printed behind the texts of a response that fails. -/
theorem Printer.tellAll_failure (texts : List String) (fault : Fault) :
    (fresh.tellAll (texts.map .partialText ++ [.failure fault])).error = some fault
      ∧ (fresh.tellAll (texts.map .partialText ++ [.failure fault])).out
        = String.join texts := by
  rw [tellAll_texts, show fresh.out = "" from rfl, String.empty_append]
  exact ⟨rfl, rfl⟩

-- ── A gateway that was assembled ───────────────────────────────────────────────────

/-- A gateway without listeners of a caller's own leaves nothing on the timeline. -/
theorem round_listenersFor (s : Settings.LogSettings) (event : Event) :
    Listener.round event (Gateway.listenersFor s []) = [] := by
  rw [Gateway.listenersFor]
  split <;> rfl

/-- Nor is there more than its one ending when an outcome is told. -/
theorem ending_listenersFor (s : Settings.LogSettings) (x : Exchange)
    (outcome : Outcome Response) :
    x.ending (Gateway.listenersFor s []) outcome = [.ending outcome] := by
  cases outcome with
  | ok response =>
      rw [Exchange.ending, round_listenersFor]
      rfl
  | error fault =>
      rw [Exchange.ending, round_listenersFor]
      rfl

/-- Settings that name no connection are refused with a fault of the library's own. -/
theorem ofSettings_own {s : Settings.ClientSettings} {fault : Fault}
    (h : Connection.ofSettings s = .error fault) : fault.kind.isOwn = true := by
  rw [Connection.ofSettings] at h
  split at h
  · split at h
    · obtain rfl := Except.error.inj h
      rfl
    · cases h
  · split at h
    · cases h
    · obtain rfl := Except.error.inj h
      rfl

/-- So is the name of an output format that there is not. -/
theorem defaultFormat_own {name : Option String} {fault : Fault}
    (h : Gateway.defaultFormat name = .error fault) : fault.kind.isOwn = true := by
  rw [Gateway.defaultFormat.eq_def] at h
  split at h
  · cases h
  · split at h
    · cases h
    · split at h
      · cases h
      · obtain rfl := Except.error.inj h
        rfl

/-- An assembly that fails does so with a fault of the library's own. -/
theorem assemble_own {s : Settings.AppSettings} {listeners : List Listener}
    {estimator : Option Estimator} {vocabulary : Vocabulary} {fault : Fault}
    (h : (Gateway.assemble s listeners estimator vocabulary).outcome = .error fault) :
    fault.kind.isOwn = true := by
  rw [Gateway.assemble] at h
  cases hconnection : Connection.ofSettings s.client with
  | error raised =>
      rw [hconnection] at h
      obtain rfl := Except.error.inj h
      exact ofSettings_own hconnection
  | ok c =>
      rw [hconnection] at h
      dsimp only at h
      rw [Gateway.ofConnection_eq] at h
      cases hformat : Gateway.defaultFormat s.defaults.format with
      | ok format =>
          rw [hformat] at h
          cases h
      | error raised =>
          rw [hformat] at h
          obtain rfl : raised = fault := Except.error.inj h
          exact defaultFormat_own hformat

namespace Run

section

variable {args : Arguments} {world : World} {settings : Settings.AppSettings} {g : Gateway}

/-- The words that a run asks with can be counted: the encoding for the model that the settings
    name refuses none of them. -/
def WordsTaken (args : Arguments) (world : World) (settings : Settings.AppSettings) : Prop :=
  (world.vocabulary.encodingOf settings.defaults.estimatorModel).Takes args.words

variable (hassemble : (Gateway.assemble settings [] none world.vocabulary).outcome = .ok g)
  (hreadable : args.Readable world.files)

include hassemble

/-- What a gateway has counted on a new scene has no effect on the encoding. -/
theorem current_counted {clock : List Float} {messages : List Message} {n : Int} {left : Scene}
    (hcount : (Scene.fresh clock).counting (g.client.estimator.countMessages messages)
      = (.ok n, left)) :
    ({ left.tally with log := [] } : Tally).current world.vocabulary
        settings.defaults.estimatorModel
      = world.vocabulary.encodingOf settings.defaults.estimatorModel := by
  let estimator : Estimator := .vocabulary world.vocabulary settings.defaults.estimatorModel
  have hestimator : g.client.estimator = estimator := (Gateway.assemble_client hassemble).2
  rw [hestimator] at hcount
  have hkeeps := Scene.counting_keeps (estimator.steady_countMessages messages) (.fresh clock)
  have hquiet := Scene.encodingFor_quietly (some estimator) left.tally
  have hleft : _ = left := congrArg Prod.snd hcount
  rw [hleft] at hkeeps
  rw [← Tally.current_fresh]
  exact Option.some.inj (hquiet.trans hkeeps)

include hreadable

/-- The request of a command line comes to options, and it is prepared if its words can be
    counted. -/
theorem request_prepared :
    ∃ request, buildRequest (.str args.prompt) (.ofOption .str args.system)
        (args.schema.getD "") world.files = .ok request
      ∧ (WordsTaken args world settings → ∃ p left,
          g.client.prepare request (.fresh world.clock) = (.ok p, left)
            ∧ ({ left.tally with log := [] } : Tally).current world.vocabulary
                settings.defaults.estimatorModel
              = world.vocabulary.encodingOf settings.defaults.estimatorModel)
      ∧ (¬ WordsTaken args world settings → ∃ left, left.timeline = []
          ∧ g.client.prepare request (.fresh world.clock) = (.error .wrongValue, left)) := by
  obtain ⟨request, ⟨hcheck, forced, hforced⟩, hsaid, hrequest⟩ := buildRequest_ok hreadable
  have htyped := (Gateway.assemble_configured hassemble).typed
  have hsettles : g.client.Settles request (g.client.merged _ _ _ request forced) :=
    ⟨hcheck, hforced, g.client.merges_merged htyped request forced⟩
  let encoding := world.vocabulary.encodingOf settings.defaults.estimatorModel
  have hcount : ((Scene.fresh world.clock).counting
      (g.client.estimator.countMessages request.messages)).1
        = Tally.estimated encoding args.said := by
    rw [(Gateway.assemble_client hassemble).2, hsaid]
    show (Tally.fresh.countMessages world.vocabulary _ args.said).1 = _
    rw [Tally.countMessages_eq, Tally.current_fresh]
  refine ⟨request, hrequest, fun htakes => ?_, fun hrefuses => ?_⟩
  · rw [Tally.estimated, if_pos ((takes_said encoding args).mpr htakes)] at hcount
    obtain ⟨p, left, hprepare⟩ :=
      Gateway.prepare_typed htyped ⟨hcheck, forced, hforced⟩ hcount
    exact ⟨p, left, hprepare,
      current_counted hassemble (Client.prepare_eq_ok.mp hprepare).2.2⟩
  · rw [Tally.estimated, if_neg fun htakes => hrefuses ((takes_said encoding args).mp htakes)]
      at hcount
    exact ⟨_, rfl, Client.prepare_eq_error.mpr (.inr ⟨⟨_, hsettles⟩, Prod.ext hcount rfl⟩)⟩

/-- A run whose words cannot be counted sends nothing and tells nobody. -/
theorem send_uncounted (huncounted : ¬ WordsTaken args world settings) :
    ∃ left, left.timeline = []
      ∧ send args world g = ⟨.error .wrongValue, [], ⟨none, none, left⟩⟩ := by
  obtain ⟨request, hrequest, -, hfails⟩ := request_prepared hassemble hreadable
  obtain ⟨left, hquiet, hprepare⟩ := hfails huncounted
  refine ⟨left, hquiet, ?_⟩
  rw [send, hrequest]
  dsimp only
  rw [Gateway.chat, Client.chat_eq_error hprepare]
  rfl

/-- **A gateway that was assembled answers.**  If its words can be counted the request is sent,
    all texts that the stream delivers are told, and then there is one ending: a failure if the
    stream has a flaw or the cost of its response cannot be told, and else the response, whose
    content are the texts. -/
theorem send_told (hcount : WordsTaken args world settings) (hraw : world.raw.Ordinary)
    (hruns : world.raw.stalls = false) :
    (send args world g).outcome = .ok ()
      ∧ (send args world g).report.asked.isSome = true
      ∧ ∃ outcome, (send args world g).report.scene.timeline
          = world.raw.delivered.map .partialText ++ [.ending outcome]
        ∧ ((∃ r, outcome = .ok r) ↔ (world.raw.under g.connection.mode).flaw = none
          ∧ Reference.Priced (world.vocabulary.encodingOf settings.defaults.estimatorModel)
              (world.raw.under g.connection.mode).opened.chunks)
        ∧ ∀ r, outcome = .ok r → r.content = String.join world.raw.delivered := by
  obtain ⟨hlisteners, hestimator⟩ := Gateway.assemble_client hassemble
  have hordinary : ∀ l ∈ g.client.listeners, l.Ordinary :=
    hlisteners ▸ Gateway.listenersFor_ordinary settings.logging fun l hl => nomatch hl
  have hcounting : g.client.estimator.Ordinary := by
    rw [hestimator]
    trivial
  obtain ⟨request, hrequest, hprepared, -⟩ := request_prepared hassemble hreadable
  obtain ⟨p, left, hprepare, hcurrent⟩ := hprepared hcount
  obtain ⟨report, told, hchat, htold, hasked, hheard⟩ :=
    @Client.chat_reference g.client request .steady (.fresh world.clock) left p hprepare
      hordinary hcounting Handler.steady_ordinary
      ⟨g.includeUsage, world.raw, .idle EventLoop.defaultName⟩ hraw hruns g.connection.mode
      g.client.deployment 0 _ rfl
  obtain ⟨sent, hsend⟩ : ∃ sent, send args world g = ⟨.ok (), sent, report⟩ := by
    rw [send, hrequest]
    dsimp only
    rw [Gateway.chat, hchat]
    exact ⟨_, rfl⟩
  rw [RawStream.pulled_steady, RawStream.delivered_under] at htold
  rw [htold, hlisteners, round_listenersFor, ending_listenersFor] at hheard
  rw [hsend]
  have hvoiced (outcome : Outcome Response) (entry : Entry)
      (hentry : entry ∈ world.raw.delivered.map .partialText ++ [.ending outcome]) :
      entry.isNotice = false := by
    rcases List.mem_append.mp hentry with hearlier | hlast
    · obtain ⟨text, -, rfl⟩ := List.mem_map.mp hearlier
      rfl
    · rw [List.mem_singleton.mp hlast]
      exact Entry.isNotice_ending _
  refine ⟨rfl, by rw [hasked]; rfl, _, Scene.timeline_of_heard hheard (hvoiced _), ?_⟩
  cases hflaw : (world.raw.under g.connection.mode).flaw with
  | some fault =>
      constructor
      · constructor
        · rintro ⟨r, hr⟩
          exact nomatch hr
        · exact fun h => (nomatch h.1)
      · exact fun r hr => (nomatch hr)
  | none =>
      obtain ⟨hpriced, hunpriced⟩ := Reference.billed_vocabulary
        (world.raw.under g.connection.mode).opened.chunks world.vocabulary
        settings.defaults.estimatorModel p.inputTokens { left.tally with log := [] }
      rw [hcurrent] at hpriced hunpriced
      rw [hestimator]
      by_cases hprice : Reference.Priced
          (world.vocabulary.encodingOf settings.defaults.estimatorModel)
          (world.raw.under g.connection.mode).opened.chunks
      · obtain ⟨n, hbilled⟩ := hpriced hprice
        refine ⟨iff_of_true ⟨_, hbilled⟩ ⟨rfl, hprice⟩, fun r hr => ?_⟩
        obtain rfl := Except.ok.inj (hbilled.symm.trans hr)
        rw [← world.raw.delivered_under g.connection.mode, RawStream.delivered_flawless hflaw]
        exact Reference.content_eq_join _
      · have hrefused := hunpriced hprice
        refine ⟨iff_of_false ?_ fun h => hprice h.2, fun r hr => ?_⟩
        · rintro ⟨r, hr⟩
          exact nomatch hrefused.symm.trans hr
        · exact nomatch hrefused.symm.trans hr

end

-- ── The three statuses ─────────────────────────────────────────────────────────────

variable (args : Arguments) (world : World) (settings : Settings.AppSettings)

/-- The request of a run was sent, and the printer was told of these entries. -/
def Tells (timeline : List Entry) : Prop :=
  ∃ g, (Gateway.assemble settings [] none world.vocabulary).outcome = .ok g
    ∧ (send args world g).report.asked.isSome = true
    ∧ (send args world g).report.scene.timeline = timeline

/-- The stream was completed: the printer was told of these texts and then of the response. -/
def Completes (texts : List String) (r : Response) : Prop :=
  Tells args world settings (texts.map .partialText ++ [.completion r])

/-- The stream failed after the request was sent: the printer was told of these texts and then
    of the failure. -/
def Fails (texts : List String) (fault : Fault) : Prop :=
  Tells args world settings (texts.map .partialText ++ [.failure fault])

/-- The library refused the run with a fault of its own: no gateway could be assembled from the
    settings, or the request was refused by the checks. -/
inductive Refused (fault : Fault) : Prop
  | settings (hown : fault.kind.isOwn = true)
      (h : (Gateway.assemble settings [] none world.vocabulary).outcome = .error fault)
  | request (hown : fault.kind.isOwn = true) {g : Gateway} {request : ChatRequest}
      (hassemble : (Gateway.assemble settings [] none world.vocabulary).outcome = .ok g)
      (hrequest : buildRequest (.str args.prompt) (.ofOption .str args.system)
        (args.schema.getD "") world.files = .ok request)
      (h : g.client.Refuses request fault)

/-- Texts and an ending are told of one run only in one way. -/
theorem tells_inj {texts texts' : List String} {outcome outcome' : Outcome Response}
    (h : texts.map Entry.partialText ++ [.ending outcome]
      = texts'.map Entry.partialText ++ [.ending outcome']) :
    texts = texts' ∧ outcome = outcome' := by
  obtain ⟨htexts, hlast⟩ := List.append_inj' h rfl
  refine ⟨List.map_injective_iff.mpr (fun a b hab => Entry.partialText.inj hab) htexts, ?_⟩
  have hending := (List.cons.inj hlast).1
  cases outcome with
  | ok response =>
      cases outcome' with
      | ok other => exact congrArg Except.ok (Entry.completion.inj hending)
      | error fault => exact nomatch hending
  | error fault =>
      cases outcome' with
      | ok other => exact nomatch hending
      | error other => exact congrArg Except.error (Entry.failure.inj hending)

section

variable {args : Arguments} {world : World} {settings : Settings.AppSettings}
  (hreadable : args.Readable world.files)

include hreadable

/-- A gateway that was assembled refuses no request of a command line. -/
theorem not_refused {g : Gateway}
    (hassemble : (Gateway.assemble settings [] none world.vocabulary).outcome = .ok g)
    (fault : Fault) : ¬ Refused args world settings fault := by
  rintro (⟨-, h⟩ | ⟨-, hassemble', hrequest, hrefuses⟩)
  · rw [hassemble] at h
    exact nomatch h
  · obtain rfl := Except.ok.inj (hassemble.symm.trans hassemble')
    obtain ⟨passing, ⟨hcheck, forced, hforced⟩, -, hbuilt⟩ := buildRequest_ok hreadable
    obtain rfl := Except.ok.inj (hbuilt.symm.trans hrequest)
    have htyped := (Gateway.assemble_configured hassemble).typed
    have hsettles : g.client.Settles passing (g.client.merged _ _ _ passing forced) :=
      ⟨hcheck, hforced, g.client.merges_merged htyped passing forced⟩
    have hoptions := Client.options_eq_error.mpr hrefuses
    rw [Client.options_eq_ok.mpr hsettles] at hoptions
    exact nomatch hoptions

/-- A run that has told anything could count the words that it asked with. -/
theorem Tells.wordsTaken {timeline : List Entry} (h : Tells args world settings timeline) :
    WordsTaken args world settings := by
  obtain ⟨g, hassemble, hasked, -⟩ := h
  by_contra huncounted
  obtain ⟨left, -, hsend⟩ := send_uncounted hassemble hreadable huncounted
  rw [hsend] at hasked
  exact nomatch hasked

/-- A run whose words cannot be counted does not end with a status, and nothing is printed or
    sent. -/
theorem withSettings_uncounted {g : Gateway}
    (hassemble : (Gateway.assemble settings [] none world.vocabulary).outcome = .ok g)
    (huncounted : ¬ WordsTaken args world settings) (root : Log.Root) :
    (withSettings args world settings root).outcome = .error .wrongValue
      ∧ (withSettings args world settings root).out = ""
      ∧ (withSettings args world settings root).sent = [] := by
  obtain ⟨left, hquiet, hsend⟩ := send_uncounted hassemble hreadable huncounted
  rw [withSettings, hassemble]
  dsimp only
  rw [hsend]
  dsimp only
  rw [hquiet]
  exact ⟨rfl, rfl, rfl⟩

/-- A run that is refused ends with status 2, and nothing is printed or sent. -/
theorem withSettings_refused {fault : Fault} (h : Refused args world settings fault)
    (root : Log.Root) :
    (withSettings args world settings root).outcome = .ok 2
      ∧ (withSettings args world settings root).out = ""
      ∧ (withSettings args world settings root).sent = [] := by
  cases hassemble : (Gateway.assemble settings [] none world.vocabulary).outcome with
  | ok g => exact absurd h (not_refused hreadable hassemble fault)
  | error raised =>
      rw [withSettings, hassemble]
      dsimp only
      rw [stopped, if_pos (assemble_own hassemble)]
      exact ⟨rfl, rfl, rfl⟩

variable (hraw : world.raw.Ordinary) (hruns : world.raw.stalls = false)

include hraw hruns

/-- What the printer of a run was told are the texts that the stream delivers, then how it
    ended; and that is what it printed. -/
theorem withSettings_told {texts : List String} {outcome : Outcome Response}
    (h : Tells args world settings (texts.map .partialText ++ [.ending outcome]))
    (root : Log.Root) :
    (withSettings args world settings root).outcome
        = .ok (statusOf (Printer.fresh.tellAll (texts.map .partialText ++ [.ending outcome])))
      ∧ (withSettings args world settings root).out
        = (Printer.fresh.tellAll (texts.map .partialText ++ [.ending outcome])).out
      ∧ texts = world.raw.delivered
      ∧ ∀ r, outcome = .ok r → r.content = String.join texts := by
  have hcount := h.wordsTaken hreadable
  obtain ⟨g, hassemble, -, htimeline⟩ := h
  obtain ⟨hsend, -, told, hdelivered, -, hcontent⟩ :=
    send_told hassemble hreadable hcount hraw hruns
  rw [htimeline] at hdelivered
  obtain ⟨rfl, rfl⟩ := tells_inj hdelivered
  rw [withSettings, hassemble]
  dsimp only
  rw [hsend, htimeline]
  exact ⟨rfl, rfl, rfl, hcontent⟩

/-- A run whose stream is completed ends with status 0. -/
theorem withSettings_completes {texts : List String} {r : Response}
    (h : Completes args world settings texts r) (root : Log.Root) :
    (withSettings args world settings root).outcome = .ok 0
      ∧ texts = world.raw.delivered ∧ r.content = String.join texts
      ∧ (withSettings args world settings root).out
        = String.join texts ++ "\n" ++ String.join (r.toolCalls.map Printer.callLine) := by
  obtain ⟨houtcome, hout, hdelivered, hcontent⟩ :=
    @withSettings_told args world settings hreadable hraw hruns texts (.ok r) h root
  obtain ⟨hdone, hprinted⟩ := Printer.tellAll_completion texts r
  rw [Entry.ending, statusOf, hdone] at houtcome
  rw [Entry.ending, hprinted] at hout
  exact ⟨houtcome, hdelivered, hcontent r rfl, hout⟩

/-- A run whose stream fails ends with status 1. -/
theorem withSettings_fails {texts : List String} {fault : Fault}
    (h : Fails args world settings texts fault) (root : Log.Root) :
    (withSettings args world settings root).outcome = .ok 1
      ∧ texts = world.raw.delivered
      ∧ (withSettings args world settings root).out = String.join texts := by
  obtain ⟨houtcome, hout, hdelivered, -⟩ :=
    @withSettings_told args world settings hreadable hraw hruns texts (.error fault) h root
  obtain ⟨hdone, hprinted⟩ := Printer.tellAll_failure texts fault
  rw [Entry.ending, statusOf, hdone] at houtcome
  rw [Entry.ending, hprinted] at hout
  exact ⟨houtcome, hdelivered, hout⟩

/-- **The stream of a gateway is completed exactly if it has no flaw** and all that is counted can
    be: it was opened, all its chunks can be read, it ended by itself, and closing it, where
    anybody does, raised nothing. -/
theorem completes_iff {g : Gateway}
    (hassemble : (Gateway.assemble settings [] none world.vocabulary).outcome = .ok g) :
    (∃ texts r, Completes args world settings texts r)
      ↔ WordsTaken args world settings ∧ (world.raw.under g.connection.mode).flaw = none
        ∧ Reference.Priced (world.vocabulary.encodingOf settings.defaults.estimatorModel)
            (world.raw.under g.connection.mode).opened.chunks := by
  constructor
  · rintro ⟨texts, r, h⟩
    have hcount := h.wordsTaken hreadable
    obtain ⟨-, -, outcome, htimeline, hending, -⟩ :=
      send_told hassemble hreadable hcount hraw hruns
    obtain ⟨g', hassemble', -, htold⟩ := h
    obtain rfl := Except.ok.inj (hassemble.symm.trans hassemble')
    obtain ⟨-, rfl⟩ := @tells_inj texts world.raw.delivered (.ok r) outcome
      (htold.symm.trans htimeline)
    exact ⟨hcount, hending.mp ⟨r, rfl⟩⟩
  · rintro ⟨hcount, hflawless⟩
    obtain ⟨-, hasked, outcome, htimeline, hending, -⟩ :=
      send_told hassemble hreadable hcount hraw hruns
    obtain ⟨r, rfl⟩ := hending.mpr hflawless
    exact ⟨_, r, g, hassemble, hasked, htimeline⟩

/-- **A run goes one of four ways**, each with a result of its own: it cannot count the words that
    it asks with, it is refused, it is completed, or it fails. -/
theorem four_ways (settings : Settings.AppSettings) (root : Log.Root) :
    ((withSettings args world settings root).outcome = .error .wrongValue
        ∧ ¬ WordsTaken args world settings)
      ∨ ((withSettings args world settings root).outcome = .ok 2
        ∧ ∃ fault, Refused args world settings fault)
      ∨ ((withSettings args world settings root).outcome = .ok 0
        ∧ ∃ texts r, Completes args world settings texts r)
      ∨ ((withSettings args world settings root).outcome = .ok 1
        ∧ ∃ texts fault, Fails args world settings texts fault) := by
  cases hassemble : (Gateway.assemble settings [] none world.vocabulary).outcome with
  | error fault =>
      have hrefused : Refused args world settings fault :=
        .settings (assemble_own hassemble) hassemble
      exact .inr (.inl ⟨(withSettings_refused hreadable hrefused root).1, fault, hrefused⟩)
  | ok g =>
      by_cases hcount : WordsTaken args world settings
      · obtain ⟨-, hasked, outcome, htimeline, -⟩ :=
          send_told hassemble hreadable hcount hraw hruns
        cases outcome with
        | ok r =>
            have hcompletes : Completes args world settings world.raw.delivered r :=
              ⟨g, hassemble, hasked, htimeline⟩
            exact .inr (.inr (.inl
              ⟨(withSettings_completes hreadable hraw hruns hcompletes root).1, _, r, hcompletes⟩))
        | error fault =>
            have hfails : Fails args world settings world.raw.delivered fault :=
              ⟨g, hassemble, hasked, htimeline⟩
            exact .inr (.inr (.inr
              ⟨(withSettings_fails hreadable hraw hruns hfails root).1, _, fault, hfails⟩))
      · exact .inl ⟨(withSettings_uncounted hreadable hassemble hcount root).1, hcount⟩

end

/-- A command line that can be read runs with the settings that it names. -/
theorem ofArguments_eq {argv : List String} {args : Arguments} {world : World}
    {settings : Settings.AppSettings} {root : Log.Root} (hread : Arguments.read argv = .ok args)
    (hload : Settings.AppSettings.load (args.config.getD "") world.files world.env = .ok settings)
    (hlogging : (Log.Root.untouched []).setUp settings.logging.level
      (if settings.logging.json then .json else .keyValue) = .ok root) :
    ofArguments argv world = withSettings args world settings root := by
  rw [ofArguments, hread]
  dsimp only
  rw [hload]
  dsimp only [bind, Except.bind]
  rw [hlogging]
  rfl

/-- Settings with a plain key, for a client that pulls. -/
def plainly : Settings.AppSettings :=
  { Settings.keyed "" "INFO" with
    client := { (Settings.keyed "" "INFO").client with plainKey := "k", useAsync := false } }

/-- A world with such settings, whose provider delivers two texts and the call of a tool, and
    whose encoding has a special token. -/
def talkative : World :=
  let choices (delta : List (String × Value)) : String × Value :=
    ("choices", .list [.object [("delta", .object delta)]])
  { env := []
    files := [("c", .data (.object [("client",
      .object [("non_azure_api_key", .str "k"), ("use_async", .bool false)])]))]
    raw :=
      { openFault := none
        chunks := [.object [choices [("content", .str "a")]],
          .object [choices [("content", .str "b"), ("tool_calls", .list [.object
              [("index", .int 0),
                ("function", .object [("name", .str "f"), ("arguments", .str "1")])]])],
            ("usage", .object [("prompt_tokens", .int 8), ("completion_tokens", .int 4),
              ("total_tokens", .int 12)])]]
        ending := none
        stalls := false
        closable := true
        closeFault := none }
    vocabulary := ⟨fun _ => none, fun _ s =>
      if s = "<|endoftext|>" then none else some s.length⟩
    clock := []
    timestamp := ""
    logger := loggerName }

theorem talkative_ordinary : talkative.raw.Ordinary where
  opening _ hfault := nomatch hfault
  ending _ hfault := nomatch hfault
  closing _ hfault := nomatch hfault

end Run

end Console

end CompletionStream
