import ClusterNode.Proofs.Reconciler.Asks

/-!
# Links and successes

The link of a peer tells what has become of its connects: without a channel none has succeeded, and
with one some connect has. So the remotes of a list that are to be connected are those that have
never been reached.
-/

namespace ClusterNode
namespace Reconciler

variable {r r' : Reconciler} {id : RunId} {before : List Event} {event : Event}
  {queried : List Address} {current : List PeerId} {plan : Plan} {n : PeerId} {p : Peer}
  {d : Directory}

def Opened (effects : List Effect) (n : PeerId) : Prop :=
  exists channel, Effect.answered n (.ok channel) ∈ effects

def Fits (d : Directory) : Effect -> Prop
  | .answered n _ => n < d.peers.length
  | .created peers => forall p, p ∈ peers -> forall channel, p.link ≠ .connected channel
  | _ => True

/-- What the links tell about the effects so far. -/
structure Wired (d : Directory) (effects : List Effect) : Prop where
  created : forall n p, d.peer? n = some p -> p.link = .created -> ¬Opened effects n
  connected : forall n p channel, d.peer? n = some p -> p.link = .connected channel ->
    Opened effects n
  known : forall n, Opened effects n -> n < d.peers.length

variable {effects more : List Effect} {e : Effect}

theorem opened_concat_iff : Opened (effects ++ [e]) n <->
    Opened effects n ∨ exists channel, e = .answered n (.ok channel) := by
  unfold Opened
  simp only [List.mem_append, List.mem_singleton, exists_or]
  simp only [eq_comm]

theorem Fits.grows (h : Fits d e) {d' : Directory} (hgrows : d.Grows d') : Fits d' e := by
  cases e with
  | answered peer answer => exact Nat.lt_of_lt_of_le h hgrows.length_le
  | _ => exact h

/-!
## One effect

A link does not stay without a channel when a connector has given one. After an effect that is no
answer, no link is other than it was, but it may be closed.
-/

theorem Wired.unanswered (h : Wired d effects) {d' : Directory}
    (hanswer : forall n channel, e ≠ .answered n (.ok channel))
    (hpeers : forall n q, d'.peer? n = some q ->
      q.link = .closed ∨ (exists p, d.peer? n = some p ∧ q.link = p.link) ∨
        d.peers.length ≤ n ∧ forall channel, q.link ≠ .connected channel)
    (hlength : d.peers.length ≤ d'.peers.length) : Wired d' (effects ++ [e]) := by
  have hopened : forall n, Opened (effects ++ [e]) n <-> Opened effects n := by
    intro n
    rw [opened_concat_iff]
    exact or_iff_left fun ⟨channel, heq⟩ => hanswer n channel heq
  constructor
  · intro n q hq hlink
    rw [hopened]
    rcases hpeers n q hq with hclosed | ⟨p, hp, hsame⟩ | ⟨hnew, _⟩
    · cases hclosed.symm.trans hlink
    · exact h.created n p hp (hsame ▸ hlink)
    · exact fun hold => Nat.not_lt_of_le hnew (h.known n hold)
  · intro n q channel hq hlink
    rw [hopened]
    rcases hpeers n q hq with hclosed | ⟨p, hp, hsame⟩ | ⟨_, hnone⟩
    · cases hclosed.symm.trans hlink
    · exact h.connected n p channel hp (hsame ▸ hlink)
    · exact absurd hlink (hnone channel)
  · intro n hn
    exact Nat.lt_of_lt_of_le (h.known n ((hopened n).mp hn)) hlength

theorem link_finishConnect_ok (p : Peer) (channel : Channel) :
    (p.finishConnect (.ok channel)).1.link ≠ .created := by
  rcases p with ⟨address, link⟩
  cases link with
  | created => exact Link.noConfusion
  | _ => exact Link.noConfusion

theorem Wired.answered (h : Wired d effects) {m : PeerId} (hm : m < d.peers.length)
    (answer : Except ClusterError Channel) :
    Wired (d.record (.answered m answer)) (effects ++ [.answered m answer]) := by
  have hgrows := Directory.grows_record d (.answered m answer)
  cases answer with
  | error e =>
      apply h.unanswered
      · intro n channel heq
        cases heq
      · intro n q hq
        rcases Directory.exists_of_peer?_modify hq with ⟨p, hp, hsame | hsame⟩
        · exact Or.inr (Or.inl ⟨p, hp, congrArg Peer.link hsame⟩)
        · exact Or.inr (Or.inl ⟨p, hp, congrArg Peer.link hsame⟩)
      · exact hgrows.length_le
  | ok channel =>
      constructor
      · intro n q hq hlink
        rw [Directory.record, Directory.peer?_modify] at hq
        rcases Option.map_eq_some_iff.mp hq with ⟨p, hp, rfl⟩
        split at hlink
        · exact absurd hlink (link_finishConnect_ok p channel)
        · rename_i hne
          rw [opened_concat_iff]
          rintro (hold | ⟨_, heq⟩)
          · exact h.created n p hp hlink hold
          · cases heq
            exact hne rfl
      · intro n q channel' hq hlink
        rw [opened_concat_iff]
        rw [Directory.record, Directory.peer?_modify] at hq
        rcases Option.map_eq_some_iff.mp hq with ⟨p, hp, rfl⟩
        split at hlink
        · rename_i heq
          exact Or.inr ⟨channel, by rw [heq]⟩
        · exact Or.inl (h.connected n p channel' hp hlink)
      · intro n hn
        apply Nat.lt_of_lt_of_le _ hgrows.length_le
        rcases opened_concat_iff.mp hn with hold | ⟨_, heq⟩
        · exact h.known n hold
        · cases heq
          exact hm

theorem Wired.record (h : Wired d effects) (he : Fits d e) :
    Wired (d.record e) (effects ++ [e]) := by
  have hgrows := (Directory.grows_record d e).length_le
  cases e with
  | answered m answer => exact h.answered he answer
  | created peers =>
      refine h.unanswered (fun _ _ heq => by cases heq) ?_ hgrows
      intro n q hq
      by_cases hn : n < d.peers.length
      · have hold : d.peer? n = some q := (List.getElem?_append_left hn).symm.trans hq
        exact Or.inr (Or.inl ⟨q, hold, rfl⟩)
      · have hnew : q ∈ peers := by
          have hq' : (d.peers ++ peers)[n]? = some q := hq
          rw [List.getElem?_append_right (Nat.le_of_not_lt hn)] at hq'
          exact List.mem_of_getElem? hq'
        exact Or.inr (Or.inr ⟨Nat.le_of_not_lt hn, he q hnew⟩)
  | closed m =>
      refine h.unanswered (fun _ _ heq => by cases heq) ?_ hgrows
      intro n q hq
      rcases Directory.exists_of_peer?_modify hq with ⟨p, hp, rfl | rfl⟩
      · exact Or.inr (Or.inl ⟨q, hp, rfl⟩)
      · cases hself : p.isSelf with
        | false => exact Or.inl (Peer.link_close_of_isSelf_false hself)
        | true =>
            have hlink := (Peer.isSelf_eq_true_iff p).mp hself
            exact Or.inr (Or.inl ⟨p, hp, by simp [Peer.close, hlink]⟩)
  | _ =>
      refine h.unanswered (fun _ _ heq => by cases heq) ?_ hgrows
      intro n q hq
      exact Or.inr (Or.inl ⟨q, hq, rfl⟩)

theorem Wired.replay (h : Wired d effects) (hmore : forall e, e ∈ more -> Fits d e) :
    Wired (d.replay more) (effects ++ more) := by
  induction more generalizing d effects with
  | nil =>
      rw [List.append_nil]
      exact h
  | cons e rest ih =>
      have hhead := h.record (hmore e List.mem_cons_self)
      have hgrows := Directory.grows_record d e
      have hrest := ih hhead fun e' he' => (hmore e' (List.mem_cons_of_mem e he')).grows hgrows
      rw [List.append_assoc] at hrest
      exact hrest

/-!
## Histories
-/

theorem fits_of_isNotice (h : e.IsNotice) (d : Directory) : Fits d e := by
  cases e with
  | answered peer answer => exact h.elim
  | created peers => exact h.elim
  | _ => exact True.intro

theorem fits_of_isCommit (h : e.isCommit = true) (d : Directory) : Fits d e := by
  cases e with
  | answered peer answer => cases h
  | created peers => cases h
  | _ => exact True.intro

theorem link_ofAddress_ne_connected (a : Address) (channel : Channel) :
    (Peer.ofAddress a).link ≠ .connected channel := by
  unfold Peer.ofAddress
  split
  · exact Link.noConfusion
  · exact Link.noConfusion

theorem fits_prelude
    (hknown : forall id, id ∈ r.directory.published -> id < r.directory.peers.length)
    (queried : List Address) : forall e, e ∈ r.prelude queried -> Fits r.directory e := by
  intro e he
  by_cases h : r.confirms queried = true
  · rw [prelude_of_confirms h, List.mem_singleton] at he
    rw [he]
    exact True.intro
  · rw [prelude_of_not_confirms hknown h] at he
    rcases List.mem_cons.mp he with rfl | hcreated
    · exact True.intro
    · rw [List.mem_singleton.mp hcreated]
      intro p hp
      rcases List.mem_map.mp hp with ⟨a, _, rfl⟩
      exact link_ofAddress_ne_connected a

theorem fits_complete (d : Directory) (r : Reconciler) (id : RunId) (current : List PeerId)
    (plan : Plan) (attempts : List Attempt) :
    forall e, e ∈ (r.complete id current plan attempts).2 -> Fits d e := by
  intro e he
  rw [complete_eq] at he
  rcases List.mem_append.mp he with hearly | hreport
  · rcases List.mem_append.mp hearly with hwarning | hcommit
    · exact fits_of_isNotice (isNotice_warnings _ _ e hwarning) d
    · exact fits_of_isCommit (isCommit_of_mem_commits hcommit) d
  · exact fits_of_isNotice (isNotice_succeed _ _ _ e hreport) d

theorem Opening.fits (h : Opening r id event current plan d effects) (hregular : r.Regular) :
    forall e, e ∈ effects -> Fits r.directory e := by
  cases h with
  | told queried _ => exact fits_prelude hregular.rooted.known queried
  | heard attempt answer hs hpeer =>
      intro e he
      rw [List.mem_singleton.mp he]
      exact (hregular.attended.connects _ _ _ _ hs).known _ hpeer

theorem Turn.fits (h : Turn r id event r' effects) (hregular : r.Regular) :
    forall e, e ∈ effects -> Fits r.directory e := by
  intro e he
  cases h with
  | rests _ => cases he
  | enters kind _ => exact fits_of_isNotice (isNotice_begin r kind e he) _
  | starts rest _ _ =>
      rw [List.mem_singleton.mp he]
      exact True.intro
  | fails error _ => exact fits_of_isNotice (isNotice_fail r id error e he) _
  | goes d hopening _ hmore =>
      rcases List.mem_append.mp he with hearly | hlater
      · exact hopening.fits hregular e hearly
      · rcases hmore with rfl | ⟨peers, rfl, _⟩
        · cases hlater
        · rcases exists_of_mem_asks hlater with ⟨_, _, _, _, _, rfl⟩
          exact True.intro
  | ends d attempts hopening =>
      rcases List.mem_append.mp he with hearly | hlater
      · exact hopening.fits hregular e hearly
      · exact fits_complete _ _ _ _ _ _ e hlater
  | leaves _ _ => cases he

theorem Aside.fits (h : Aside r event r' effects) :
    forall e, e ∈ effects -> Fits r.directory e := by
  intro e he
  cases h with
  | registers address answer => exact fits_of_isNotice (isNotice_registered r _ answer e he) _
  | rests => cases he
  | closes peer =>
      rw [List.mem_singleton.mp he]
      exact True.intro

theorem fits_step (hregular : r.Regular) (event : Event) :
    forall e, e ∈ (r.step event).2 -> Fits r.directory e := by
  cases howner : r.owner? event with
  | none => exact (aside_step howner).fits
  | some id => exact (turn_step howner).fits hregular

theorem wired_after (hregular : r.Regular) (h : Wired r.directory [])
    (history : List Event) : Wired (r.after history).directory (r.trace history) := by
  induction history using List.reverseRecOn with
  | nil => exact h
  | append_singleton history event ih =>
      have hregular' := hregular.run history
      have hreplay := ih.replay (fits_step hregular' event)
      rw [replay_step hregular'.rooted.known] at hreplay
      rw [after_concat, trace_concat]
      exact hreplay

theorem wired_create (internalAddress : Option Address) (check : HealthCheck) :
    Wired (create internalAddress check).directory [] := by
  constructor
  · intro n p hp
    cases hp
  · intro n p channel hp
    cases hp
  · rintro n ⟨channel, hmem⟩
    cases hmem

/-- A remote of the list is to be connected as long as no connect of it has succeeded. -/
theorem created_iff_not_opened (hledger : Ledger r []) (hregular : r.Regular)
    (hwired : Wired r.directory []) (hserial : forall e, e ∈ before -> e.IsSerial)
    (hn : n ∈ (r.after before).listOf queried)
    (hp : ((r.after before).staged queried).peer? n = some p) (hremote : p.isSelf = false) :
    p.link = .created <-> ¬Opened (r.trace before) n := by
  have hknown := (hregular.run before).rooted.known
  have hwires := wired_after hregular hwired before
  rcases mem_list_decision_cases hknown hn with hmem | ⟨hnew, _⟩
  · rw [peer?_staged_old hknown queried (hknown n hmem)] at hp
    constructor
    · exact hwires.created n p hp
    · intro hnot
      cases hlink : p.link with
      | here =>
          rw [(Peer.isSelf_eq_true_iff p).mpr hlink] at hremote
          cases hremote
      | created => rfl
      | connected channel => exact absurd (hwires.connected n p channel hp hlink) hnot
      | closed => exact absurd hmem ((hledger.fit_after hserial).unclosed n p hp hlink)
  · have hunknown : ¬Opened (r.trace before) n :=
      fun hopened => Nat.not_lt_of_le hnew (hwires.known n hopened)
    rcases exists_of_peer?_staged_new hknown hnew hp with ⟨a, rfl⟩
    refine iff_of_true ?_ hunknown
    rw [Peer.isSelf_ofAddress] at hremote
    simp [Peer.ofAddress, hremote, Peer.ofRemote]

end Reconciler
end ClusterNode
