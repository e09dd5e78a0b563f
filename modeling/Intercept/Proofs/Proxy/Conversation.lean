import Intercept.Proofs.Course
import Intercept.Proofs.Stream.Calm
import Intercept.Proxy.Dialogue

/-!
# Conversations step by step

Performing a dialogue goes through moments. From one moment to the next a message is handed over, or
octets are waited for, but never both; so what has been heard and said at the moments tells the
order in which it was heard and said. A law says what a client may do, having heard and said this
much. A dialogue that obeys a law keeps it at every moment, whatever happens on the stream.

## Main statements

* `leads_perform`: the moments lead to what performing the dialogue comes to.
* `obeys_bind`: what it takes for two dialogues in a row to obey a law.
* `kept_of_leads`: at every moment the law has been kept, and the stream shows nothing else.
* `Kept.silent`: where the law allows no message any more, none is sent.
-/

namespace Intercept.Proxy

/-- What the stream of a talk has come to since the talk began: `heard` has been taken from the
reading side; the messages `said` have been handed over whole and flushed, and `part` after them. -/
structure Talk.Account (begun t : Talk) (heard : Bytes) (said : List Bytes) (part : Bytes) :
    Prop where
  reads : Stream.dataOf begun.stream.reads = heard ++ Stream.dataOf t.stream.reads
  output : t.stream.output = begun.stream.output ++ (said.flatten ++ part)
  flushes : t.stream.flushes = begun.stream.flushes + said.length
  shutdowns : t.stream.shutdowns = begun.stream.shutdowns

namespace Talk.Account

variable {limit : Stream.Limit} {begun t t' : Talk} {heard part message : Bytes}
  {said : List Bytes} {halt : Stream.Halt} {count : Nat}

theorem start (t : Talk) : t.Account t [] [] [] where
  reads := rfl
  output := by simp
  flushes := rfl
  shutdowns := rfl

/-- A message that was handed over whole has been flushed, whatever the flush came to. -/
theorem flushed (account : begun.Account t heard said [])
    (whole : (Stream.deliver limit t.now message t.stream.writes).halt = none) :
    begun.Account
      { t with
        stream := { t.stream with
          toSink := (t.handed (Stream.deliver limit t.now message t.stream.writes)).flush.2 }
        now := (Stream.deliver limit t.now message t.stream.writes).now }
      heard (said ++ [message]) [] := by
  refine ⟨account.reads, ?_, ?_, account.shutdowns⟩
  · show (t.stream.written ++ _).flatten = _
    rw [List.flatten_append, Stream.flatten_chunks_deliver whole]
    show t.stream.output ++ message = _
    rw [account.output]
    simp
  · show t.stream.flushes + 1 = _
    rw [account.flushes, List.length_append, List.length_singleton, Nat.add_assoc]

theorem sent (account : begun.Account t heard said [])
    (h : t.send limit message = (.ok (), t')) : begun.Account t' heard (said ++ [message]) [] := by
  unfold send at h
  dsimp only at h
  split at h
  · cases h
  · rename_i whole
    split at h
    · cases h
    · cases h
      exact account.flushed whole

/-- A message that was not sent was cut short, or handed over whole before the flush failed. -/
theorem unsent (account : begun.Account t heard said [])
    (h : t.send limit message = (.error halt, t')) :
    begun.Account t' heard (said ++ [message]) []
      ∨ ∃ part, part <+: message ∧ part.length < message.length
        ∧ begun.Account t' heard said part := by
  unfold send at h
  dsimp only at h
  split at h
  · rename_i halted stopped
    cases h
    right
    obtain ⟨rest, taken⟩ := Stream.chunks_deliver limit t.now message t.stream.writes
    refine ⟨_, ⟨rest, taken.symm⟩, Stream.deliver_stopped stopped, account.reads, ?_,
      account.flushes, account.shutdowns⟩
    show (t.stream.written ++ _).flatten = _
    rw [List.flatten_append]
    show t.stream.output ++ _ = _
    rw [account.output]
    simp
  · rename_i whole
    split at h
    · cases h
      exact .inl (account.flushed whole)
    · cases h

/-- Whatever a wait comes to, it has only heard something. -/
theorem awaited (account : begun.Account t heard said part) (limit : Stream.Limit) (count : Nat) :
    begun.Account (t.await limit count).2
      (heard ++ (Stream.gather limit count t.now t.stream.reads).got) said part := by
  have conserved := Stream.got_gather limit count t.now t.stream.reads
  refine ⟨?_, ?_, ?_, ?_⟩
  · rw [stream_await, account.reads, ← conserved, List.append_assoc]
  · rw [stream_await]
    exact account.output
  · rw [stream_await]
    exact account.flushes
  · rw [stream_await]
    exact account.shutdowns

theorem came (account : begun.Account t heard said []) {octets : Bytes}
    (h : t.await limit count = (.ok octets, t')) :
    octets.length = count ∧ begun.Account t' (heard ++ octets) said [] := by
  have later := account.awaited limit count
  rw [h] at later
  unfold await at h
  dsimp only at h
  split at h
  · rename_i whole
    cases h
    exact ⟨Stream.length_got_gather whole, later⟩
  · cases h

/-- A wait that stopped short has heard too little. -/
theorem failedToCome (account : begun.Account t heard said [])
    (h : t.await limit count = (.error halt, t')) :
    ∃ got : Bytes, got.length < count ∧ begun.Account t' (heard ++ got) said [] := by
  have later := account.awaited limit count
  rw [h] at later
  unfold await at h
  dsimp only at h
  split at h
  · cases h
  · rename_i stopped
    exact ⟨_, (Stream.gather_stopped stopped).1, later⟩

end Talk.Account

namespace Dialogue

variable {α β : Type}

/-! ### Moments -/

inductive Moment (α : Type) where
  | midway (d : Dialogue α) (t : Talk)
  | ended (result : Except Talk.Stop α) (t : Talk)

namespace Moment

def talk : Moment α → Talk
  | .midway _ t | .ended _ t => t

def next (limit : Stream.Limit) : Moment α → Option (Moment α)
  | .ended _ _ => none
  | .midway (.done a) t => some (.ended (.ok a) t)
  | .midway (.giveUp f) t => some (.ended (.error (.failure f)) t)
  | .midway (.enter phase d) t => some (.midway d { t with phase := phase })
  | .midway (.send stage message d) t =>
    match t.send limit message with
    | (.ok (), t') => some (.midway d t')
    | (.error halt, t') => some (.ended (.error (Talk.stopOf stage .writeZero halt)) t')
  | .midway (.await stage reported count d) t =>
    match t.await limit count with
    | (.ok octets, t') => some (.midway (d octets) t')
    | (.error halt, t') => some (.ended (.error (Talk.stopOf stage reported halt)) t')

end Moment

/-- **The moments of a performance** lead to what the performance comes to. -/
theorem leads_perform (limit : Stream.Limit) (d : Dialogue α) (t : Talk) :
    Leads (Moment.next limit) (.midway d t) (.ended (d.perform limit t).1 (d.perform limit t).2) := by
  induction d generalizing t with
  | done a => exact .step rfl .refl
  | giveUp f => exact .step rfl .refl
  | enter phase next ih => exact .step rfl (ih { t with phase := phase })
  | send stage message next ih =>
    simp only [perform]
    split
    · rename_i t' sent
      refine .step ?_ (ih t')
      simp only [Moment.next, sent]
    · rename_i halt t' unsent
      refine .step ?_ .refl
      simp only [Moment.next, unsent]
  | await stage ended count next ih =>
    simp only [perform]
    split
    · rename_i octets t' came
      refine .step ?_ (ih octets t')
      simp only [Moment.next, came]
    · rename_i halt t' stopped
      refine .step ?_ .refl
      simp only [Moment.next, stopped]

/-! ### Laws -/

/-- What a client does of its own accord. -/
inductive Move where
  | say (message : Bytes)
  | wait (count : Nat)
  | giveUp (f : Failure.Negotiation)

/-- What a client may do, having heard and said this much. -/
abbrev Law := Bytes → List Bytes → Move → Prop

/-- Whether a dialogue, held when this much has been heard and said, makes lawful moves only and
yields a value only where `post` allows it. -/
def Obeys (law : Law) (post : α → Bytes → List Bytes → Prop) :
    Dialogue α → Bytes → List Bytes → Prop
  | .done a, heard, said => post a heard said
  | .giveUp f, heard, said => law heard said (.giveUp f)
  | .enter _ next, heard, said => next.Obeys law post heard said
  | .send _ message next, heard, said =>
    law heard said (.say message) ∧ next.Obeys law post heard (said ++ [message])
  | .await _ _ count next, heard, said => law heard said (.wait count)
    ∧ ∀ octets : Bytes, octets.length = count → (next octets).Obeys law post (heard ++ octets) said

theorem obeys_bind {law : Law} {post : β → Bytes → List Bytes → Prop} {d : Dialogue α}
    {rest : α → Dialogue β} {heard : Bytes} {said : List Bytes} :
    (d >>= rest).Obeys law post heard said ↔
      d.Obeys law (fun a heard said => (rest a).Obeys law post heard said) heard said := by
  rw [bind_eq]
  induction d generalizing heard said with
  | done a => rfl
  | giveUp f => rfl
  | enter phase next ih => exact ih
  | send stage message next ih => exact and_congr_right fun _ => ih
  | await stage ended count next ih =>
    exact and_congr_right fun _ => forall₂_congr fun octets _ => ih octets

theorem Obeys.mono {law : Law} {post post' : α → Bytes → List Bytes → Prop} {d : Dialogue α}
    {heard : Bytes} {said : List Bytes} (obeys : d.Obeys law post heard said)
    (weaker : ∀ a heard said, post a heard said → post' a heard said) :
    d.Obeys law post' heard said := by
  induction d generalizing heard said with
  | done a => exact weaker a heard said obeys
  | giveUp f => exact obeys
  | enter phase next ih => exact ih obeys
  | send stage message next ih => exact ⟨obeys.1, ih obeys.2⟩
  | await stage ended count next ih =>
    exact ⟨obeys.1, fun octets counted => ih octets (obeys.2 octets counted)⟩

/-! ### Keeping a law -/

/-- Whether everything was said in its turn: the last message that was begun was allowed by the law
when the messages before it had been said and a front of what has been heard by now. -/
def InTurn (law : Law) (heard : Bytes) (said : List Bytes) (part : Bytes) : Prop :=
  (said = [] ∧ part = []) ∨ ∃ past before message, past <+: heard
    ∧ law past before (.say message)
    ∧ ((said = before ++ [message] ∧ part = [])
      ∨ (said = before ∧ part <+: message ∧ part.length < message.length))

/-- How a moment stands to a law: what is still to be done obeys it, and what ended the
conversation was allowed by it or was a transfer that the law allowed and that stopped short. -/
inductive Standing (law : Law) (post : α → Bytes → List Bytes → Prop) :
    Moment α → Bytes → List Bytes → Bytes → Prop where
  | midway {d : Dialogue α} {t : Talk} {heard : Bytes} {said : List Bytes} :
      d.Obeys law post heard said → Standing law post (.midway d t) heard said []
  | done {a : α} {t : Talk} {heard : Bytes} {said : List Bytes} :
      post a heard said → Standing law post (.ended (.ok a) t) heard said []
  | gaveUp {f : Failure.Negotiation} {t : Talk} {heard : Bytes} {said : List Bytes} :
      law heard said (.giveUp f) → Standing law post (.ended (.error (.failure f)) t) heard said []
  | unsaid {stop : Talk.Stop} {t : Talk} {heard message part : Bytes} {before said : List Bytes} :
      law heard before (.say message) → Standing law post (.ended (.error stop) t) heard said part
  | unheard {stop : Talk.Stop} {t : Talk} {heard got : Bytes} {said : List Bytes} {count : Nat} :
      law heard said (.wait count) → got.length < count →
      Standing law post (.ended (.error stop) t) (heard ++ got) said []

/-- A moment at which a law has been kept since the talk began. -/
structure Kept (law : Law) (post : α → Bytes → List Bytes → Prop) (begun : Talk) (m : Moment α)
    (heard : Bytes) (said : List Bytes) (part : Bytes) : Prop where
  account : begun.Account m.talk heard said part
  inTurn : InTurn law heard said part
  standing : Standing law post m heard said part

variable {law : Law} {post : α → Bytes → List Bytes → Prop} {begun : Talk} {m m' : Moment α}
  {heard heard' part : Bytes} {said : List Bytes} {limit : Stream.Limit}

theorem InTurn.mono (inTurn : InTurn law heard said part) (more : heard <+: heard') :
    InTurn law heard' said part := by
  rcases inTurn with nothing | ⟨past, before, message, front, allowed, begun⟩
  · exact .inl nothing
  · exact .inr ⟨past, before, message, front.trans more, allowed, begun⟩

/-- **One step keeps a law.** It may add to what was heard; and it says nothing, or what it says
the law allowed. -/
theorem Kept.next (kept : Kept law post begun m heard said part)
    (step : m.next limit = some m') :
    ∃ heard' said' part', heard <+: heard' ∧ Kept law post begun m' heard' said' part'
      ∧ ((said' = said ∧ part' = part) ∨ ∃ message, law heard said (.say message)) := by
  obtain ⟨account, inTurn, standing⟩ := kept
  cases standing with
  | @midway d t _ _ obeys =>
    cases d with
    | done a =>
      cases step
      exact ⟨heard, said, [], List.prefix_rfl, ⟨account, inTurn, .done obeys⟩, .inl ⟨rfl, rfl⟩⟩
    | giveUp f =>
      cases step
      exact ⟨heard, said, [], List.prefix_rfl, ⟨account, inTurn, .gaveUp obeys⟩, .inl ⟨rfl, rfl⟩⟩
    | enter phase d =>
      cases step
      have account : begun.Account { t with phase := phase } heard said [] :=
        ⟨account.reads, account.output, account.flushes, account.shutdowns⟩
      exact ⟨heard, said, [], List.prefix_rfl, ⟨account, inTurn, .midway obeys⟩, .inl ⟨rfl, rfl⟩⟩
    | send stage message d =>
      -- the message may come through, be cut short, or come through and not be flushed
      obtain ⟨allowed, later⟩ := obeys
      have whole : InTurn law heard (said ++ [message]) [] :=
        .inr ⟨heard, said, message, List.prefix_rfl, allowed, .inl ⟨rfl, rfl⟩⟩
      simp only [Moment.next] at step
      split at step
      · rename_i t' sent
        cases step
        exact ⟨heard, said ++ [message], [], List.prefix_rfl,
          ⟨account.sent sent, whole, .midway later⟩, .inr ⟨message, allowed⟩⟩
      · rename_i halt t' unsent
        cases step
        rcases account.unsent unsent with unflushed | ⟨part, front, short, cut⟩
        · exact ⟨heard, said ++ [message], [], List.prefix_rfl,
            ⟨unflushed, whole, .unsaid allowed⟩, .inr ⟨message, allowed⟩⟩
        · have inTurn : InTurn law heard said part :=
            .inr ⟨heard, said, message, List.prefix_rfl, allowed, .inr ⟨rfl, front, short⟩⟩
          exact ⟨heard, said, part, List.prefix_rfl, ⟨cut, inTurn, .unsaid allowed⟩,
            .inr ⟨message, allowed⟩⟩
    | await stage ended count d =>
      -- nothing is said; what has come counts as heard even if it is too little
      obtain ⟨allowed, later⟩ := obeys
      simp only [Moment.next] at step
      split at step
      · rename_i octets t' came
        cases step
        obtain ⟨counted, account⟩ := account.came came
        have more := List.prefix_append heard octets
        exact ⟨heard ++ octets, said, [], more,
          ⟨account, inTurn.mono more, .midway (later octets counted)⟩, .inl ⟨rfl, rfl⟩⟩
      · rename_i halt t' stopped
        cases step
        obtain ⟨got, short, account⟩ := account.failedToCome stopped
        have more := List.prefix_append heard got
        exact ⟨heard ++ got, said, [], more,
          ⟨account, inTurn.mono more, .unheard allowed short⟩, .inl ⟨rfl, rfl⟩⟩
  | done | gaveUp | unsaid | unheard =>
    -- the conversation is over, there is no next moment
    cases step

/-- **A whole conversation keeps a law** that its dialogue obeys. -/
theorem kept_of_leads {d : Dialogue α} (obeys : d.Obeys law post [] [])
    (leads : Leads (Moment.next limit) (.midway d begun) m) :
    ∃ heard said part, Kept law post begun m heard said part := by
  induction leads with
  | refl => exact ⟨[], [], [], .start begun, .inl ⟨rfl, rfl⟩, .midway obeys⟩
  | tail _ step ih =>
    obtain ⟨heard, said, part, kept⟩ := ih
    obtain ⟨heard', said', part', _, kept', _⟩ := kept.next step
    exact ⟨heard', said', part', kept'⟩

/-- **Silence.** If the law allows no message once something has been heard, none is sent after
that. -/
theorem Kept.silent {final : Bytes → Prop}
    (stays : ∀ {heard heard'}, final heard → heard <+: heard' → final heard')
    (mute : ∀ {heard said message}, law heard said (.say message) → ¬ final heard)
    (kept : Kept law post begun m heard said part) (reached : final heard)
    (leads : Leads (Moment.next limit) m m') :
    ∃ heard', heard <+: heard' ∧ Kept law post begun m' heard' said part := by
  induction leads with
  | refl => exact ⟨heard, List.prefix_rfl, kept⟩
  | tail _ step ih =>
    obtain ⟨heard', more, kept⟩ := ih
    obtain ⟨heard'', said', part', yetMore, kept', same | ⟨message, allowed⟩⟩ := kept.next step
    · obtain ⟨rfl, rfl⟩ := same
      exact ⟨heard'', more.trans yetMore, kept'⟩
    · exact absurd (stays reached more) (mute allowed)

end Dialogue

end Intercept.Proxy
