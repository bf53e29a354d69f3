import Redeemo.Queues.Producer

/-! What holds of the producer in every interleaving.

    The invariant has three parts: which creation is the memoised one, and which connection the live one; what the
    memoised queues await or ride; and what the calls of `closeQueues` have taken over. A creation belongs to the
    epoch in which it was begun. Of an epoch, one creation at most has not failed; once the epoch is over, whoever
    has ended it answers for that one. -/

namespace Redeemo.Queues
open Runs

/-! ### The invariant -/

/-- The creation of the current epoch that has not failed is memoised, and live once it is connected. -/
structure ProducerInv (p : Producer) : Prop where
  epoch_le : ∀ n c, p.creations.row n = some c → c.epoch ≤ p.producerEpoch
  current : ∀ n c, p.creations.row n = some c → c.epoch = p.producerEpoch → c.stage ≠ .evicted →
    p.producerCreation = some n
  memo : ∀ n, p.producerCreation = some n → n < p.creations.next
  memoRow : ∀ n c, p.producerCreation = some n → p.creations.row n = some c →
    c.epoch = p.producerEpoch ∧ c.stage ≠ .evicted
  live : ∀ n, p.liveProducer = some n → p.producerCreation = some n
  liveRow : ∀ n c, p.liveProducer = some n → p.creations.row n = some c →
    c.stage = .connected ∧ c.disconnected = false ∧ c.quit = false
  connected : ∀ n c, p.creations.row n = some c → c.epoch = p.producerEpoch → c.stage = .connected →
    p.liveProducer = some n
  pending : ∀ n c, p.pendingProducer = some n → p.creations.row n = some c → c.stage = .connecting
  inFlight : ∀ n c, p.creations.row n = some c → c.stage = .connecting → c.disconnected = false →
    p.pendingProducer = some n ∨ n + 1 < p.creations.next
  young : ∀ n c, p.creations.row n = some c → c.stage = .connecting → c.quit = false
  rejected : ∀ n c, p.creations.row n = some c → c.stage = .rejected ∨ c.stage = .evicted → c.disconnected = true

/-- What is memoised belongs to the current epoch, and all of that is memoised. -/
structure QueueInv (p : Producer) (m : InsertionMap String ℕ) (t : Table QueueCreation) : Prop where
  creation : ∀ q x, t.row q = some x → x.creation < p.creations.next
  constructed : ∀ q x c, t.row q = some x → p.creations.row x.creation = some c → x.stage = .constructed →
    c.stage = .connected
  refused : ∀ q x c, t.row q = some x → p.creations.row x.creation = some c → x.stage = .rejected ∨ x.stage = .evicted →
    c.stage = .rejected ∨ c.stage = .evicted
  memo : ∀ name q, m.get? name = some q → q < t.next
  memoRow : ∀ name q x c, m.get? name = some q → t.row q = some x → p.creations.row x.creation = some c →
    x.name = name ∧ x.stage ≠ .evicted ∧ c.epoch = p.producerEpoch
  memoised : ∀ q x c, t.row q = some x → p.creations.row x.creation = some c → c.epoch = p.producerEpoch →
    x.stage ≠ .evicted → m.get? x.name = some q
  unique : ∀ q q' x x', t.row q = some x → t.row q' = some x' → x.name = x'.name → x.creation = x'.creation →
    x.stage = .awaiting ∨ x.stage = .constructed → x'.stage = .awaiting ∨ x'.stage = .constructed → q = q'
  awaited : ∀ n c, p.creations.row n = some c → c.stage = .connecting → c.epoch = p.producerEpoch →
    ∃ name q x, m.get? name = some q ∧ t.row q = some x ∧ x.creation = n

/-- What a call of `closeQueues` has taken over, and what it has done about it. -/
structure ClosingInv (p : Producer) (t : Table QueueCreation) (cs : Table Closing) : Prop where
  epoch_le : ∀ d k, cs.row d = some k → k.epoch ≤ p.producerEpoch
  unique : ∀ d d' k k', cs.row d = some k → cs.row d' = some k' → k.epoch = k'.epoch → d = d'
  conn : ∀ d k n, cs.row d = some k → k.conn = some n → n < p.creations.next
  connRow : ∀ d k n c, cs.row d = some k → k.conn = some n → p.creations.row n = some c →
    c.stage = .connected ∧ c.epoch + 1 = k.epoch
  quitted : ∀ d k n c, cs.row d = some k → k.conn = some n → p.creations.row n = some c →
    k.stage = .quitting ∨ k.stage = .graceful → c.quit = true
  forced : ∀ d k n c, cs.row d = some k → k.conn = some n → p.creations.row n = some c → k.expired = some true →
    c.disconnected = true
  returned : ∀ d k, cs.row d = some k → k.expired = some false → k.stage = .graceful
  bound : ∀ d k q, cs.row d = some k → q ∈ k.creations → q < t.next
  settled : ∀ d k q x, cs.row d = some k → k.stage ≠ .settling → q ∈ k.creations → t.row q = some x →
    x.stage ≠ .awaiting
  waits : ∀ d k n c, cs.row d = some k → p.creations.row n = some c → c.epoch + 1 = k.epoch → c.stage = .connecting →
    ∃ q x, q ∈ k.creations ∧ t.row q = some x ∧ x.creation = n
  overtaken : ∀ d k n c, cs.row d = some k → p.creations.row n = some c → c.epoch + 1 = k.epoch →
    c.stage = .connecting → k.expired = some true → c.disconnected = true ∨ n + 1 < p.creations.next
  past : ∀ n c, p.creations.row n = some c → c.epoch < p.producerEpoch → c.disconnected = false → c.quit = false →
    ∃ d k, cs.row d = some k ∧ k.epoch = c.epoch + 1 ∧ (c.stage = .connected → k.conn = some n)

structure Inv (s : State) : Prop where
  producer : ProducerInv s.producer
  queues : QueueInv s.producer s.queueCreations s.queues
  closings : ClosingInv s.producer s.queues s.closings

section
variable {p p' : Producer} {m : InsertionMap String ℕ} {t : Table QueueCreation} {cs : Table Closing} {n q d : ℕ}

/-! ### The producer -/

theorem ProducerInv.create (h : ProducerInv p) (hnone : p.producerCreation = none) : ProducerInv p.create := by
  have hn := p.creations.none_iff
  constructor <;> grind [ProducerInv, Producer.create]

/-- A creation that was connecting is no longer in flight: it is live, or it is rejected. -/
theorem connected_cases {ready : Bool} (hp : p.connected n ready = some p') : ∃ c pending,
    p.creations.row n = some c ∧ c.stage = .connecting ∧ (∀ i, pending = some i ↔ p.pendingProducer = some i ∧ i ≠ n) ∧
      ((c.epoch = p.producerEpoch ∧ c.disconnected = false ∧ p' = { p with
          creations := p.creations.modify n fun c => { c with stage := .connected }
          liveProducer := some n
          pendingProducer := pending }) ∨
        p' = { p with
          creations := p.creations.modify n fun c => { c with stage := .rejected, disconnected := true }
          pendingProducer := pending }) := by
  obtain ⟨c, hc, hp⟩ := Option.bind_eq_some_iff.mp hp
  obtain ⟨⟨hstage, hready⟩, hp⟩ := Option.ite_none_right_eq_some.mp hp
  refine ⟨c, if p.pendingProducer = some n then none else p.pendingProducer, hc, hstage, by grind, ?_⟩
  dsimp only at hp
  by_cases hlive : ready = true ∧ c.epoch = p.producerEpoch
  · rw [if_pos hlive] at hp
    exact .inl ⟨hlive.2, hready hlive.1, (Option.some.inj hp).symm⟩
  · rw [if_neg hlive] at hp
    exact .inr (Option.some.inj hp).symm

theorem ProducerInv.connect {ready : Bool} (h : ProducerInv p) (hp : p.connected n ready = some p') :
    ProducerInv p' := by
  obtain ⟨c, pending, hc, hstage, hpending, ⟨he, hd, rfl⟩ | rfl⟩ := connected_cases hp <;>
    constructor <;> grind [ProducerInv]

theorem ProducerInv.evict (h : ProducerInv p) (hp : p.evict n = some p') : ProducerInv p' := by
  obtain ⟨c, hc, hp⟩ := Option.bind_eq_some_iff.mp hp
  split_ifs at hp <;> cases hp <;> constructor <;> grind [ProducerInv]

theorem ProducerInv.invalidate (h : ProducerInv p) : ProducerInv (p.invalidate n) := by
  constructor <;> grind [ProducerInv, Option.map_eq_some_iff, Producer.invalidate, Producer.disconnect]

theorem ProducerInv.supersede (h : ProducerInv p) : ProducerInv p.supersede := by
  constructor <;> grind [ProducerInv, Producer.supersede]

/-- The live producer is left alone. -/
theorem ProducerInv.disconnect (h : ProducerInv p) (hn : p.liveProducer ≠ some n) : ProducerInv (p.disconnect n) := by
  constructor <;> grind [ProducerInv, Option.map_eq_some_iff, Producer.disconnect]

theorem ProducerInv.quit (h : ProducerInv p) {c : Creation} (hc : p.creations.row n = some c)
    (hstage : c.stage = .connected) (hn : p.liveProducer ≠ some n) : ProducerInv (p.quit n) := by
  constructor <;> grind [ProducerInv, Producer.quit]

theorem ProducerInv.forcePending (h : ProducerInv p) : ProducerInv p.forcePending := by
  rw [Producer.forcePending]
  split
  · constructor <;> grind [ProducerInv, Option.map_eq_some_iff, Producer.disconnect]
  · exact h

/-! ### The queues -/

theorem QueueInv.create (h : QueueInv p m t) (hp : ProducerInv p) (hnone : p.producerCreation = none) {name : String}
    (hm : m.get? name = none) : QueueInv p.create (m.set name t.next) (t.make ⟨name, p.creations.next, .awaiting⟩) := by
  have ht := t.none_iff
  have hn := p.creations.none_iff
  have hget := m.get?_set name
  constructor
  case awaited =>
    intro n c hc hstage hepoch
    have hne : n = p.creations.next := by grind [ProducerInv, Producer.create]
    exact ⟨name, t.next, _, by grind, (by grind : _ = some (⟨name, p.creations.next, .awaiting⟩ : QueueCreation)),
      hne.symm⟩
  all_goals grind [QueueInv, ProducerInv, Producer.create]

theorem QueueInv.make (h : QueueInv p m t) (hp : ProducerInv p) (hn : p.producerCreation = some n) {name : String}
    (hm : m.get? name = none) : QueueInv p (m.set name t.next) (t.make ⟨name, n, .awaiting⟩) := by
  have ht := t.none_iff
  obtain ⟨c, hc⟩ := Table.exists_row (hp.memo n hn)
  obtain ⟨hepoch, -⟩ := hp.memoRow n c hn hc
  have hget := m.get?_set name
  constructor
  case awaited =>
    intro n' c' hc' hstage hepoch'
    have hne : n' = n := by grind [ProducerInv]
    exact ⟨name, t.next, _, by grind, (by grind : _ = some (⟨name, n, .awaiting⟩ : QueueCreation)), hne.symm⟩
  all_goals grind [QueueInv, ProducerInv]

theorem QueueInv.connect {ready : Bool} (h : QueueInv p m t) (hp : p.connected n ready = some p') :
    QueueInv p' m t := by
  obtain ⟨c, pending, hc, hstage, -, ⟨-, -, rfl⟩ | rfl⟩ := connected_cases hp <;> constructor <;> grind [QueueInv]

theorem QueueInv.evict (h : QueueInv p m t) (hp : p.evict n = some p') : QueueInv p' m t := by
  obtain ⟨c, hc, hp⟩ := Option.bind_eq_some_iff.mp hp
  split_ifs at hp <;> cases hp <;> constructor <;> grind [QueueInv]

theorem QueueInv.disconnect (h : QueueInv p m t) : QueueInv (p.disconnect n) m t := by
  constructor <;> grind [QueueInv, Option.map_eq_some_iff, Producer.disconnect]

theorem QueueInv.quit (h : QueueInv p m t) : QueueInv (p.quit n) m t := by
  constructor <;> grind [QueueInv, Option.map_eq_some_iff, Producer.quit]

theorem QueueInv.forcePending (h : QueueInv p m t) : QueueInv p.forcePending m t := by
  rw [Producer.forcePending]
  split
  · next n _ =>
    obtain ⟨h1, h2, h3, h4, h5, h6, h7, h8⟩ := h.disconnect (n := n)
    exact ⟨h1, h2, h3, h4, h5, h6, h7, h8⟩
  · exact h

/-- A new epoch begins, with nothing memoised. -/
theorem QueueInv.supersede (h : QueueInv p m t) (hp : ProducerInv p) : QueueInv p.supersede .empty t := by
  have hle := hp.epoch_le
  have hnone : ∀ name, (InsertionMap.empty : InsertionMap String ℕ).get? name = none := fun _ => rfl
  constructor <;> grind [QueueInv, Producer.supersede]

theorem QueueInv.invalidate (h : QueueInv p m t) (hp : ProducerInv p) : QueueInv (p.invalidate n) .empty t := by
  obtain ⟨h1, h2, h3, h4, h5, h6, h7, h8⟩ := (h.supersede hp).disconnect (n := n)
  exact ⟨h1, h2, h3, h4, h5, h6, h7, h8⟩

theorem QueueInv.resume {x : QueueCreation} {c : Creation} (h : QueueInv p m t) (hx : t.row q = some x)
    (hc : p.creations.row x.creation = some c) (hx' : x.stage = .awaiting) (hc' : c.stage ≠ .connecting) :
    QueueInv p m (t.modify q fun x =>
      { x with stage := if c.stage = .connected then .constructed else .rejected }) := by
  have hs : c.stage = .connected ∨ c.stage = .rejected ∨ c.stage = .evicted := by
    cases hstage : c.stage <;> simp_all
  constructor <;> grind [QueueInv]

theorem QueueInv.evictQueue {x : QueueCreation} (h : QueueInv p m t) (hx : t.row q = some x)
    (hx' : x.stage = .rejected) :
    QueueInv p (if m.get? x.name = some q then m.erase x.name else m)
      (t.modify q fun x => { x with stage := .evicted }) := by
  obtain ⟨c, hc⟩ := Table.exists_row (h.creation q x hx)
  have hm : ∀ name q', (if m.get? x.name = some q then m.erase x.name else m).get? name = some q' ↔
      m.get? name = some q' ∧ q' ≠ q := by
    have hrow := fun name hname => (h.memoRow name q x c hname hx hc).1
    have he := @InsertionMap.get?_erase_eq_some _ _ _ m x.name
    grind
  generalize (if m.get? x.name = some q then m.erase x.name else m) = m' at hm
  constructor
  case awaited =>
    intro n c hc hstage hepoch
    obtain ⟨name, q', x', hname, hq', rfl⟩ := h.awaited n c hc hstage hepoch
    have hne : q' ≠ q := by grind [QueueInv]
    exact ⟨name, q', x', (hm name q').mpr ⟨hname, hne⟩, by grind, rfl⟩
  all_goals grind [QueueInv]

/-! ### The closings -/

theorem ClosingInv.create (h : ClosingInv p t cs) (hp : ProducerInv p) : ClosingInv p.create t cs := by
  have hn := p.creations.none_iff
  constructor <;> grind [ClosingInv, ProducerInv, Producer.create]

theorem ClosingInv.make (h : ClosingInv p t cs) (x : QueueCreation) : ClosingInv p (t.make x) cs := by
  have ht := t.none_iff
  constructor <;> grind [ClosingInv]

theorem ClosingInv.connect {ready : Bool} (h : ClosingInv p t cs) (hp : p.connected n ready = some p') :
    ClosingInv p' t cs := by
  obtain ⟨c, pending, hc, hstage, -, ⟨he, hd, rfl⟩ | rfl⟩ := connected_cases hp <;> constructor <;> grind [ClosingInv]

theorem ClosingInv.evict (h : ClosingInv p t cs) (hp : p.evict n = some p') : ClosingInv p' t cs := by
  obtain ⟨c, hc, hp⟩ := Option.bind_eq_some_iff.mp hp
  split_ifs at hp <;> cases hp <;> constructor <;> grind [ClosingInv]

theorem ClosingInv.disconnect (h : ClosingInv p t cs) : ClosingInv (p.disconnect n) t cs := by
  constructor <;> grind [ClosingInv, Option.map_eq_some_iff, Producer.disconnect]

theorem ClosingInv.quit (h : ClosingInv p t cs) : ClosingInv (p.quit n) t cs := by
  constructor <;> grind [ClosingInv, Option.map_eq_some_iff, Producer.quit]

theorem ClosingInv.forcePending (h : ClosingInv p t cs) : ClosingInv p.forcePending t cs := by
  rw [Producer.forcePending]
  split
  · next n _ =>
    obtain ⟨h1, h2, h3, h4, h5, h6, h7, h8, h9, h10, h11, h12⟩ := h.disconnect (n := n)
    exact ⟨h1, h2, h3, h4, h5, h6, h7, h8, h9, h10, h11, h12⟩
  · exact h

/-- The live producer is all that is open of its epoch, and it is disconnected. -/
theorem ClosingInv.invalidate (h : ClosingInv p t cs) (hp : ProducerInv p) (hlive : p.liveProducer = some n) :
    ClosingInv (p.invalidate n) t cs := by
  constructor <;> grind [ClosingInv, ProducerInv, Option.map_eq_some_iff, Producer.invalidate, Producer.disconnect]

theorem ClosingInv.settle {stage : QueueStage} (h : ClosingInv p t cs) (hstage : stage ≠ .awaiting) :
    ClosingInv p (t.modify q fun x => { x with stage := stage }) cs := by
  constructor
  case waits =>
    intro d k n c hk hc hepoch hconnecting
    obtain ⟨q', x', hq', hx', rfl⟩ := h.waits d k n c hk hc hepoch hconnecting
    by_cases hne : q' = q
    · exact ⟨q', { x' with stage := stage }, hq', by grind, rfl⟩
    · exact ⟨q', x', hq', by grind, rfl⟩
  all_goals grind [ClosingInv, Option.map_eq_some_iff]

/-- The new closing takes over what is memoised, and the live producer. -/
theorem ClosingInv.supersede (h : ClosingInv p t cs) (hp : ProducerInv p) (hq : QueueInv p m t) :
    ClosingInv p.supersede t
      (cs.make ⟨p.producerEpoch + 1, m.entries.map Prod.snd, p.liveProducer, .settling, none⟩) := by
  have hn := cs.none_iff
  have hm := @InsertionMap.mem_entries_iff _ _ _ m
  constructor
  case waits =>
    intro d k n c hk hc hepoch hstage
    rw [Table.row_make] at hk
    split_ifs at hk
    · cases hk
      obtain ⟨name, q, x, hname, hx, rfl⟩ := hq.awaited n c hc hstage (Nat.succ.inj hepoch)
      exact ⟨q, x, List.mem_map.mpr ⟨(name, q), hm.mpr hname, rfl⟩, hx, rfl⟩
    · exact h.waits d k n c hk hc hepoch hstage
  case past =>
    intro n c hc hlt hdisconnected hquit
    rcases Nat.lt_succ_iff_lt_or_eq.mp hlt with hlt | heq
    · obtain ⟨d, k, hk, hold⟩ := h.past n c hc hlt hdisconnected hquit
      exact ⟨d, k, by grind, hold⟩
    · exact ⟨cs.next, _, Table.row_make.trans (if_pos rfl), by rw [heq], fun hstage => hp.connected n c hc heq hstage⟩
  all_goals grind [ClosingInv, ProducerInv, QueueInv, Producer.supersede]

theorem ClosingInv.setStage {k : Closing} {stage : CloseStage} (h : ClosingInv p t cs) (hk : cs.row d = some k)
    (hexpired : k.expired = some false → stage = .graceful)
    (hsettled : stage ≠ .settling → ∀ q ∈ k.creations, ∀ x, t.row q = some x → x.stage ≠ .awaiting)
    (hquit : stage = .quitting ∨ stage = .graceful →
      ∀ n c, k.conn = some n → p.creations.row n = some c → c.quit = true) :
    ClosingInv p t (cs.modify d fun k => { k with stage := stage }) := by
  constructor
  case past =>
    intro n c hc hlt hdisconnected hopen
    obtain ⟨d', k', hk', hold⟩ := h.past n c hc hlt hdisconnected hopen
    by_cases hd : d' = d
    · exact ⟨d', { k' with stage := stage }, by grind, hold⟩
    · exact ⟨d', k', by grind, hold⟩
  all_goals grind [ClosingInv]

theorem ClosingInv.setExpired {k : Closing} {expired : Bool} (h : ClosingInv p t cs) (hk : cs.row d = some k)
    (hgraceful : expired = false → k.stage = .graceful)
    (hforced : expired = true → ∀ n c, k.conn = some n → p.creations.row n = some c → c.disconnected = true)
    (hpending : expired = true → ∀ n c, p.creations.row n = some c → c.stage = .connecting →
      c.disconnected = true ∨ n + 1 < p.creations.next) :
    ClosingInv p t (cs.modify d fun k => { k with expired := some expired }) := by
  constructor
  case past =>
    intro n c hc hlt hdisconnected hopen
    obtain ⟨d', k', hk', hold⟩ := h.past n c hc hlt hdisconnected hopen
    by_cases hd : d' = d
    · exact ⟨d', { k' with expired := some expired }, by grind, hold⟩
    · exact ⟨d', k', by grind, hold⟩
  all_goals grind [ClosingInv]

end

/-! ### Steps -/

section
variable {s s' : State} {a : Act} {n d : ℕ}

theorem inv_initial : Inv initial := by
  have hrow : ∀ {α : Type} (n : ℕ), (Table.empty : Table α).row n = none := fun _ => rfl
  have hget : ∀ name, (InsertionMap.empty : InsertionMap String ℕ).get? name = none := fun _ => rfl
  constructor <;> constructor <;> simp [initial, hrow, hget]

theorem Inv.invalidateProducer (h : Inv s) : Inv (s.invalidateProducer n) := by
  rw [State.invalidateProducer]
  split_ifs with hlive
  · exact ⟨h.producer.invalidate, h.queues.invalidate h.producer, h.closings.invalidate h.producer hlive⟩
  · exact h

theorem Inv.makeQueue (h : Inv s) (name : String) : Inv (s.makeQueue name).1 := by
  rw [State.makeQueue]
  split
  · exact h
  · next hm =>
    rw [Producer.getProducerConnection]
    cases hn : s.producer.producerCreation with
    | some n => exact ⟨h.producer, h.queues.make h.producer hn hm, h.closings.make _⟩
    | none => exact ⟨h.producer.create hn, h.queues.create h.producer hn hm, (h.closings.create h.producer).make _⟩

theorem Inv.enqueue (h : Inv s) (name jobId : String) : Inv (s.enqueue name jobId) := by
  rw [State.enqueue]
  split_ifs
  · obtain ⟨hp, hq, hc⟩ := h.makeQueue name
    exact ⟨hp, hq, hc⟩
  · exact h

/-- A closing's connection is not the live one. -/
theorem Inv.conn_ne_live (h : Inv s) {k : Closing} (hk : s.closings.row d = some k) (hn : k.conn = some n) :
    s.producer.liveProducer ≠ some n := by
  intro hlive
  obtain ⟨c, hc⟩ := Table.exists_row (h.closings.conn d k n hk hn)
  have := (h.producer.memoRow n c (h.producer.live n hlive) hc).1
  have := (h.closings.connRow d k n c hk hn hc).2
  have := h.closings.epoch_le d k hk
  omega

theorem Inv.expire (h : Inv s) (hs : s.expire d = some s') : Inv s' := by
  obtain ⟨k, hk, hs⟩ := Option.bind_eq_some_iff.mp hs
  obtain ⟨-, ⟨⟩⟩ := Option.ite_none_right_eq_some.mp hs
  -- The connection that was taken over goes first, then what is in flight.
  have hforce : ∀ p, ProducerInv p → QueueInv p s.queueCreations s.queues → ClosingInv p s.queues s.closings →
      (∀ n c, k.conn = some n → p.creations.row n = some c → c.disconnected = true) →
        Inv { s.setExpired d true with producer := p.forcePending } := by
    intro p hp hq hc hforced
    refine ⟨hp.forcePending, hq.forcePending, hc.forcePending.setExpired hk nofun (fun _ => ?_) (fun _ => ?_)⟩
    · grind [Producer.forcePending, Producer.disconnect, Option.map_eq_some_iff]
    · grind [Producer.forcePending, Producer.disconnect, Option.map_eq_some_iff, ProducerInv]
  cases hn : k.conn with
  | none => exact hforce _ h.producer h.queues h.closings (by simp [hn])
  | some n =>
    refine hforce _ (h.producer.disconnect (h.conn_ne_live hk hn)) h.queues.disconnect h.closings.disconnect ?_
    grind [Producer.disconnect, Option.map_eq_some_iff]

theorem inv_step (h : Inv s) (hs : step s a = some s') : Inv s' := by
  obtain ⟨hp, hq, hc⟩ := h
  cases a with
  | enqueue name jobId =>
    cases hs
    exact Inv.enqueue ⟨hp, hq, hc⟩ name jobId
  | connected n ready =>
    obtain ⟨p, hconnected, rfl⟩ := Option.map_eq_some_iff.mp hs
    exact ⟨hp.connect hconnected, hq.connect hconnected, hc.connect hconnected⟩
  | evict n =>
    obtain ⟨p, hevict, rfl⟩ := Option.map_eq_some_iff.mp hs
    exact ⟨hp.evict hevict, hq.evict hevict, hc.evict hevict⟩
  | ended n =>
    cases hs
    exact Inv.invalidateProducer ⟨hp, hq, hc⟩
  | queueResumed q =>
    obtain ⟨x, hx, hs⟩ := Option.bind_eq_some_iff.mp hs
    obtain ⟨c, hrow, hs⟩ := Option.bind_eq_some_iff.mp hs
    obtain ⟨hstage, ⟨⟩⟩ := Option.ite_none_right_eq_some.mp hs
    refine ⟨hp, hq.resume hx hrow hstage.1 hstage.2, hc.settle ?_⟩
    split_ifs <;> exact nofun
  | evictQueue q =>
    obtain ⟨x, hx, hs⟩ := Option.bind_eq_some_iff.mp hs
    obtain ⟨hstage, ⟨⟩⟩ := Option.ite_none_right_eq_some.mp hs
    exact ⟨hp, hq.evictQueue hx hstage, hc.settle nofun⟩
  | queueAwaited k =>
    obtain ⟨call, -, hs⟩ := Option.bind_eq_some_iff.mp hs
    obtain ⟨x, -, hs⟩ := Option.bind_eq_some_iff.mp hs
    obtain ⟨-, ⟨⟩⟩ := Option.ite_none_right_eq_some.mp hs
    exact ⟨hp, hq, hc⟩
  | added k err =>
    obtain ⟨call, -, hs⟩ := Option.bind_eq_some_iff.mp hs
    obtain ⟨x, -, hs⟩ := Option.bind_eq_some_iff.mp hs
    obtain ⟨-, ⟨⟩⟩ := Option.ite_none_right_eq_some.mp hs
    split_ifs
    · exact Inv.invalidateProducer ⟨hp, hq, hc⟩
    · exact ⟨hp, hq, hc⟩
  | closeQueues =>
    cases hs
    exact ⟨hp.supersede, hq.supersede hp, hc.supersede hp hq⟩
  | creationsSettled d =>
    obtain ⟨k, hk, hs⟩ := Option.bind_eq_some_iff.mp hs
    obtain ⟨hall, ⟨⟩⟩ := Option.ite_none_right_eq_some.mp hs
    refine ⟨hp, hq, hc.setStage hk (fun he => ?_) (fun _ q hmem x hx => ?_) nofun⟩
    · cases (hc.returned d k hk he).symm.trans hall.1
    · have := List.all_eq_true.mp hall.2 q hmem
      simpa [State.isSettled, hx] using this
  | queueClosed d q =>
    obtain ⟨k, hk, hs⟩ := Option.bind_eq_some_iff.mp hs
    split at hs
    · next left hstage =>
      obtain ⟨-, ⟨⟩⟩ := Option.ite_none_right_eq_some.mp hs
      refine ⟨hp, hq, hc.setStage hk (fun he => ?_) (fun _ q hmem x hx => ?_) nofun⟩
      · cases (hc.returned d k hk he).symm.trans hstage
      · exact hc.settled d k q x hk (by simp [hstage]) hmem hx
    · cases hs
  | queuesClosed d =>
    obtain ⟨k, hk, hs⟩ := Option.bind_eq_some_iff.mp hs
    obtain ⟨hstage, hs⟩ := Option.ite_none_right_eq_some.mp hs
    have hsettled := fun q hmem x hx => hc.settled d k q x hk (by simp [hstage]) hmem hx
    have hgoing : k.expired ≠ some false := fun he => by cases (hc.returned d k hk he).symm.trans hstage
    split at hs
    · next n hn =>
      cases hs
      obtain ⟨c, hrow⟩ := Table.exists_row (hc.conn d k n hk hn)
      have hlive := Inv.conn_ne_live ⟨hp, hq, hc⟩ hk hn
      refine ⟨hp.quit hrow (hc.connRow d k n c hk hn hrow).1 hlive, hq.quit,
        hc.quit.setStage hk (fun he => absurd he hgoing) (fun _ => hsettled) (fun _ => ?_)⟩
      grind [Producer.quit, Option.map_eq_some_iff]
    · next hn =>
      cases hs
      exact ⟨hp, hq, hc.setStage hk (fun _ => rfl) (fun _ => hsettled) fun _ n c hconn => by simp [hn] at hconn⟩
  | quitSettled d =>
    obtain ⟨k, hk, hs⟩ := Option.bind_eq_some_iff.mp hs
    obtain ⟨hstage, ⟨⟩⟩ := Option.ite_none_right_eq_some.mp hs
    refine ⟨hp, hq, hc.setStage hk (fun _ => rfl) (fun _ q hmem x hx => ?_) fun _ n c hn hrow => ?_⟩
    · exact hc.settled d k q x hk (by simp [hstage]) hmem hx
    · exact hc.quitted d k n c hk hn hrow (.inl hstage)
  | closed d =>
    obtain ⟨k, hk, hs⟩ := Option.bind_eq_some_iff.mp hs
    obtain ⟨hstage, ⟨⟩⟩ := Option.ite_none_right_eq_some.mp hs
    exact ⟨hp, hq, hc.setExpired hk (fun _ => hstage.1) nofun nofun⟩
  | expire d => exact Inv.expire ⟨hp, hq, hc⟩ hs

theorem inv_run {as : List Act} (h : run step initial as = some s) : Inv s :=
  run_invariant (fun _ _ _ => inv_step) inv_initial h

/-- The creations of a state are there afterwards, each in its epoch; a new one has a new number. -/
def Older (p p' : Producer) : Prop :=
  p.creations.next ≤ p'.creations.next ∧
    ∀ n c', n < p.creations.next → p'.creations.row n = some c' → ∃ c, p.creations.row n = some c ∧ c'.epoch = c.epoch

theorem Older.refl (p : Producer) : Older p p := ⟨Nat.le_refl _, fun _ c _ hc => ⟨c, hc, rfl⟩⟩

theorem Older.trans {p p' p'' : Producer} (h : Older p p') (h' : Older p' p'') : Older p p'' := by
  refine ⟨h.1.trans h'.1, fun n c'' hn hc'' => ?_⟩
  obtain ⟨c', hc', he'⟩ := h'.2 n c'' (Nat.lt_of_lt_of_le hn h.1) hc''
  obtain ⟨c, hc, he⟩ := h.2 n c' hn hc'
  exact ⟨c, hc, he'.trans he⟩

theorem older_modify {p p' : Producer} {f : Creation → Creation} (hp : p'.creations = p.creations.modify n f)
    (hf : ∀ c, (f c).epoch = c.epoch) : Older p p' := by
  rw [Older, hp]
  exact ⟨Nat.le_refl _, fun m c' _ hc' => by grind [Option.map_eq_some_iff]⟩

theorem older_create (p : Producer) : Older p p.create := by
  refine ⟨Nat.le_succ _, fun n c' hn hc' => ⟨c', ?_, rfl⟩⟩
  grind [Producer.create]

theorem older_forcePending (p : Producer) : Older p p.forcePending := by
  rw [Producer.forcePending]
  split
  · exact older_modify rfl fun _ => rfl
  · exact .refl p

theorem older_step (hs : step s a = some s') : Older s.producer s'.producer := by
  have hinvalidate : ∀ (s : State) n, Older s.producer (s.invalidateProducer n).producer := by
    intro s n
    rw [State.invalidateProducer]
    split_ifs
    · exact older_modify rfl fun _ => rfl
    · exact .refl _
  cases a with
  | enqueue name jobId =>
    cases hs
    rw [State.enqueue]
    split_ifs
    · show Older s.producer (s.makeQueue name).1.producer
      rw [State.makeQueue]
      split
      · exact .refl _
      · rw [Producer.getProducerConnection]
        cases s.producer.producerCreation with
        | some n => exact .refl s.producer
        | none => exact older_create s.producer
    · exact .refl _
  | connected n ready =>
    obtain ⟨p, hp, rfl⟩ := Option.map_eq_some_iff.mp hs
    obtain ⟨c, -, hp⟩ := Option.bind_eq_some_iff.mp hp
    obtain ⟨-, hp⟩ := Option.ite_none_right_eq_some.mp hp
    dsimp only at hp
    split_ifs at hp <;> cases hp <;> exact older_modify rfl fun _ => rfl
  | evict n =>
    obtain ⟨p, hp, rfl⟩ := Option.map_eq_some_iff.mp hs
    obtain ⟨c, -, hp⟩ := Option.bind_eq_some_iff.mp hp
    obtain ⟨-, ⟨⟩⟩ := Option.ite_none_right_eq_some.mp hp
    exact older_modify rfl fun _ => rfl
  | ended n =>
    cases hs
    exact hinvalidate s n
  | closeQueues =>
    cases hs
    exact .refl s.producer
  | added k err =>
    obtain ⟨call, -, hs⟩ := Option.bind_eq_some_iff.mp hs
    obtain ⟨x, -, hs⟩ := Option.bind_eq_some_iff.mp hs
    obtain ⟨-, ⟨⟩⟩ := Option.ite_none_right_eq_some.mp hs
    split_ifs
    · exact hinvalidate { s with calls := s.calls.modify k fun call => { call with stage := .settled } } x.creation
    · exact .refl s.producer
  | queueResumed q | queueAwaited k =>
    obtain ⟨x, -, hs⟩ := Option.bind_eq_some_iff.mp hs
    obtain ⟨c, -, hs⟩ := Option.bind_eq_some_iff.mp hs
    obtain ⟨-, ⟨⟩⟩ := Option.ite_none_right_eq_some.mp hs
    exact .refl s.producer
  | evictQueue d | creationsSettled d | quitSettled d | closed d =>
    obtain ⟨x, -, hs⟩ := Option.bind_eq_some_iff.mp hs
    obtain ⟨-, ⟨⟩⟩ := Option.ite_none_right_eq_some.mp hs
    exact .refl s.producer
  | queueClosed d q =>
    obtain ⟨k, -, hs⟩ := Option.bind_eq_some_iff.mp hs
    split at hs
    · obtain ⟨-, ⟨⟩⟩ := Option.ite_none_right_eq_some.mp hs
      exact .refl s.producer
    · cases hs
  | queuesClosed d =>
    obtain ⟨k, -, hs⟩ := Option.bind_eq_some_iff.mp hs
    obtain ⟨-, hs⟩ := Option.ite_none_right_eq_some.mp hs
    split at hs <;> cases hs
    · exact older_modify rfl fun _ => rfl
    · exact .refl s.producer
  | expire d =>
    obtain ⟨k, -, hs⟩ := Option.bind_eq_some_iff.mp hs
    obtain ⟨-, ⟨⟩⟩ := Option.ite_none_right_eq_some.mp hs
    refine Older.trans ?_ (older_forcePending _)
    split
    · exact older_modify rfl fun _ => rfl
    · exact .refl s.producer

theorem older_run {as : List Act} (h : run step s as = some s') : Older s.producer s'.producer :=
  run_invariant (I := fun u => Older s.producer u.producer) (fun _ _ _ hu hs => hu.trans (older_step hs)) (.refl _) h

end

/-! ### The main results -/

section
variable {s s' : State} {as bs : List Act}

/-- CORRECT: a memoised queue that is constructed rides the live producer, and a burst of calls constructs one queue
    of each name at most on a connection. -/
theorem queues_ride_live (h : run step initial as = some s) :
    (∀ name q x, s.queueCreations.get? name = some q → s.queues.row q = some x → x.stage = .constructed →
      x.name = name ∧ s.producer.liveProducer = some x.creation) ∧
    ∀ q q' x x', s.queues.row q = some x → s.queues.row q' = some x' → x.stage = .constructed →
      x'.stage = .constructed → x.name = x'.name → x.creation = x'.creation → q = q' := by
  obtain ⟨hp, hq, -⟩ := inv_run h
  refine ⟨fun name q x hget hx hstage => ?_, fun q q' x x' hx hx' hstage hstage' hname hcreation => ?_⟩
  · obtain ⟨c, hc⟩ := Table.exists_row (hq.creation q x hx)
    obtain ⟨hname, -, hepoch⟩ := hq.memoRow name q x c hget hx hc
    exact ⟨hname, hp.connected _ c hc hepoch (hq.constructed q x c hx hc hstage)⟩
  · exact hq.unique q q' x x' hx hx' hname hcreation (.inr hstage) (.inr hstage')

/-- CORRECT: a connection that has been told neither to disconnect nor to quit is the live one, or is being
    connected in the current epoch; else its epoch was ended by a `closeQueues`, which has not returned yet or was
    not the last to want a producer. -/
theorem no_leaked_connection (h : run step initial as = some s) {n : ℕ} {c : Creation}
    (hc : s.producer.creations.row n = some c) (hdisconnected : c.disconnected = false) (hquit : c.quit = false) :
    s.producer.liveProducer = some n ∨ (c.stage = .connecting ∧ c.epoch = s.producer.producerEpoch) ∨
      ∃ d k, s.closings.row d = some k ∧ k.epoch = c.epoch + 1 ∧
        (k.expired = none ∨ (c.stage = .connecting ∧ n + 1 < s.producer.creations.next)) := by
  obtain ⟨hp, hq, hcl⟩ := inv_run h
  have hstage : c.stage = .connecting ∨ c.stage = .connected := by
    have := hp.rejected n c hc
    cases hs : c.stage <;> simp_all
  rcases Nat.lt_or_eq_of_le (hp.epoch_le n c hc) with hlt | heq
  · obtain ⟨d, k, hk, hepoch, hconn⟩ := hcl.past n c hc hlt hdisconnected hquit
    refine .inr (.inr ⟨d, k, hk, hepoch, ?_⟩)
    rcases hexpired : k.expired with _ | _ | _
    · exact .inl rfl
    · -- The graceful path has waited for every creation, and has told the connection to quit.
      have hgraceful := hcl.returned d k hk hexpired
      rcases hstage with hstage | hstage
      · obtain ⟨q, x, hmem, hx, rfl⟩ := hcl.waits d k n c hk hc hepoch.symm hstage
        have hsettled := hcl.settled d k q x hk (by simp [hgraceful]) hmem hx
        have hconstructed := hq.constructed q x c hx hc
        have hrefused := hq.refused q x c hx hc
        cases hs : x.stage <;> simp_all
      · cases (hcl.quitted d k n c hk (hconn hstage) hc (.inr hgraceful)).symm.trans hquit
    · rcases hstage with hstage | hstage
      · rcases hcl.overtaken d k n c hk hc hepoch.symm hstage hexpired with h' | h'
        · cases h'.symm.trans hdisconnected
        · exact .inr ⟨hstage, h'⟩
      · cases (hcl.forced d k n c hk (hconn hstage) hc hexpired).symm.trans hdisconnected
  · rcases hstage with hstage | hstage
    · exact .inr (.inl ⟨hstage, heq⟩)
    · exact .inl (hp.connected n c hc heq hstage)

/-- CORRECT: once an epoch is over, by an invalidation or a closing, no creation begun until then is ever live. -/
theorem superseded_never_live (h : run step initial as = some s) (hrest : run step s bs = some s')
    (hepoch : s.producer.producerEpoch < s'.producer.producerEpoch) {n : ℕ}
    (hlive : s'.producer.liveProducer = some n) : s.producer.creations.next ≤ n := by
  have hinv := inv_run h
  have hinv' := inv_run (run_append_eq_some.mpr ⟨s, h, hrest⟩)
  by_contra hn
  have hmemo := hinv'.producer.live n hlive
  obtain ⟨c', hc'⟩ := Table.exists_row (hinv'.producer.memo n hmemo)
  obtain ⟨c, hc, he⟩ := (older_run hrest).2 n c' (by omega) hc'
  have := hinv.producer.epoch_le n c hc
  have := (hinv'.producer.memoRow n c' hmemo hc').1
  omega

/-- Two callers share a producer in the making; it is closed while it connects, and another is made. -/
def closedInFlight : List Act :=
  [.enqueue "email" "a", .enqueue "email" "b", .closeQueues, .enqueue "email" "c", .expire 0, .connected 0 true, .evict 0,
    .queueResumed 0, .evictQueue 0, .connected 1 false, .evict 1, .queueResumed 1, .evictQueue 1, .enqueue "email" "d",
    .connected 2 true, .queueResumed 2]

theorem no_leaked_connection_closedInFlight : ∃ s, run step initial (closedInFlight.take 5) = some s ∧
    (∃ c, s.producer.creations.row 0 = some c ∧ c.disconnected = false ∧ c.quit = false) ∧
      s.producer.liveProducer = none := by
  have h : run step initial (closedInFlight.take 5) = some _ := rfl
  refine ⟨_, h, ⟨_, rfl, rfl, rfl⟩, ?_⟩
  rcases no_leaked_connection h (n := 0) rfl rfl rfl with hlive | _ | _
  · cases hlive
  · rfl
  · rfl

theorem superseded_never_live_closedInFlight : ∃ s s', run step initial (closedInFlight.take 2) = some s ∧
    run step s (closedInFlight.drop 2) = some s' ∧ s'.producer.liveProducer = some 2 ∧ s.producer.creations.next ≤ 2 := by
  have h : run step initial (closedInFlight.take 2) = some _ := rfl
  refine ⟨_, _, h, rfl, rfl, ?_⟩
  exact superseded_never_live h (show run step _ (closedInFlight.drop 2) = some _ from rfl) (by decide) rfl

theorem queues_ride_live_closedInFlight : ∃ s, run step initial closedInFlight = some s ∧
    s.producer.liveProducer = some 2 := by
  have h : run step initial closedInFlight = some _ := rfl
  exact ⟨_, h, ((queues_ride_live h).1 "email" 2 _ rfl rfl rfl).2⟩

end

end Redeemo.Queues
