import ClusterNode.Proofs.Reconciler.Links
import ClusterNode.Proofs.Reconciler.Overlap

/-!
# The connects of a run

A run that is told of the members asks once for each remote of its list that has no link, and for
nobody else. It notes a warning for each connect that fails and leaves that peer as it was, so that
the next run asks for it again; a peer that has got its channel is never asked for again.
-/

namespace ClusterNode

abbrev Reply := PeerId × Except ClusterError Channel

namespace Effect

def reply? : Effect -> Option Reply
  | answered peer answer => some (peer, answer)
  | _ => none

def warning? : Effect -> Option String
  | signal (.warning text) => some text
  | _ => none

end Effect

namespace Reconciler

variable {r : Reconciler} {id : RunId} {history before : List Event} {event : Event}
  {queried : List Address} {current : List PeerId} {plan : Plan} {attempts : List Attempt}
  {n : PeerId} {p : Peer} {d : Directory}

/-!
## The answers to the connects of a run

Attempts and peers are looked up among the answers that have come so far. Each of these is for
another peer, so one more answer goes to an attempt that waits, and after the last one all attempts
are over.
-/

def answers (replies : List Reply) : List Effect :=
  replies.map fun reply => .answered reply.1 reply.2

def attemptFor (replies : List Reply) (n : PeerId) : Attempt :=
  ⟨n, (replies.lookup n).map fun answer => answer.map fun _ => ()⟩

def settled (replies : List Reply) (n : PeerId) (p : Peer) : Peer :=
  match replies.lookup n with
  | none => p
  | some answer => (p.finishConnect answer).1

/-- The connects after some answers, each to another peer. -/
structure Heard (table : Directory) (targets : List PeerId) (replies : List Reply) (d : Directory)
    (attempts : List Attempt) : Prop where
  once : (replies.map Prod.fst).Nodup
  wanted : forall n, n ∈ replies.map Prod.fst -> n ∈ targets
  directory : d = table.replay (answers replies)
  attempts : attempts = targets.map (attemptFor replies)

section Heard

variable {table : Directory} {targets : List PeerId} {replies : List Reply} {k : Nat}

theorem lookup_eq_none_iff : replies.lookup n = none <-> n ∉ replies.map Prod.fst := by
  rw [List.lookup_eq_none_iff, List.mem_map]
  constructor
  · rintro h ⟨reply, hreply, rfl⟩
    simpa using h reply hreply
  · intro h reply hreply
    rw [bne_iff_ne]
    rintro rfl
    exact h ⟨reply, hreply, rfl⟩

theorem peer?_replay_answers (hnodup : (replies.map Prod.fst).Nodup) (d : Directory)
    (n : PeerId) :
    (d.replay (answers replies)).peer? n = (d.peer? n).map (settled replies n) := by
  induction replies generalizing d with
  | nil => exact Option.map_id_apply.symm
  | cons first rest ih =>
      rcases first with ⟨m, answer⟩
      rcases List.nodup_cons.mp hnodup with ⟨hnot, hrest⟩
      show ((d.modify m fun p => (p.finishConnect answer).1).replay (answers rest)).peer? n = _
      rw [ih hrest, Directory.peer?_modify, Option.map_map]
      congr 1
      funext p
      by_cases hm : m = n
      · subst hm
        have hnone : rest.lookup m = none := lookup_eq_none_iff.mpr hnot
        simp [settled, hnone]
      · have hne : (n == m) = false := beq_eq_false_iff_ne.mpr fun heq => hm heq.symm
        simp [settled, List.lookup_cons, hm, hne]

theorem finishConnect_of_created (hcreated : p.link = .created)
    (answer : Except ClusterError Channel) :
    (p.finishConnect answer).2 = answer.map fun _ => () := by
  cases answer with
  | error e => rfl
  | ok channel =>
      unfold Peer.finishConnect
      rw [hcreated]
      rfl

theorem Heard.nil (table : Directory) (targets : List PeerId) :
    Heard table targets [] table (targets.map fun n => ⟨n, none⟩) := by
  constructor
  · exact List.nodup_nil
  · intro n hn
    cases hn
  · rfl
  · rfl

theorem Heard.hear (h : Heard table (Topology.pending table targets) replies d attempts)
    (hnodup : (Topology.pending table targets).Nodup) (hk : attempts[k]? = some ⟨n, none⟩)
    (hp : d.peer? n = some p) (answer : Except ClusterError Channel) :
    Heard table (Topology.pending table targets) (replies ++ [(n, answer)])
      (d.record (.answered n answer)) (attempted attempts k n p answer) := by
  rw [h.attempts, List.getElem?_map] at hk
  rcases Option.map_eq_some_iff.mp hk with ⟨m, hm, heq⟩
  rcases Attempt.mk.inj heq with ⟨rfl, hnone⟩
  have hpending := List.mem_of_getElem? hm
  have hnew : m ∉ replies.map Prod.fst := lookup_eq_none_iff.mp (Option.map_eq_none_iff.mp hnone)
  have hlookup := lookup_eq_none_iff.mpr hnew
  have hcreated : p.link = .created := by
    rcases (Directory.isCreated_eq_true_iff _ _).mp (List.mem_filter.mp hpending).right with
      ⟨q, hq, hlink⟩
    rw [h.directory, peer?_replay_answers h.once, hq] at hp
    cases hp
    simpa [settled, hlookup] using hlink
  constructor
  · rw [List.map_append]
    refine List.nodup_append.mpr ⟨h.once, List.nodup_singleton m, ?_⟩
    intro x hx y hy heq
    rw [heq, List.mem_singleton.mp hy] at hx
    exact hnew hx
  · intro x hx
    rw [List.map_append] at hx
    rcases List.mem_append.mp hx with hold | hlast
    · exact h.wanted x hold
    · rw [List.map_singleton, List.mem_singleton] at hlast
      rw [hlast]
      exact hpending
  · rw [answers, List.map_append, Directory.replay_append, ← answers, ← h.directory]
    rfl
  · apply List.ext_getElem?
    intro j
    rw [attempted, h.attempts, List.getElem?_set, List.getElem?_map, List.getElem?_map]
    by_cases hj : k = j
    · subst hj
      have hlt : k < ((Topology.pending table targets).map (attemptFor replies)).length := by
        rw [List.length_map]
        exact (List.getElem?_eq_some_iff.mp hm).1
      rw [if_pos rfl, if_pos hlt, hm]
      simp [attemptFor, List.lookup_append, hlookup, finishConnect_of_created hcreated]
    · rw [if_neg hj]
      apply Option.map_congr
      intro x hx
      have hne : (x == m) = false := by
        rw [beq_eq_false_iff_ne]
        rintro rfl
        exact hj (((List.getElem?_inj (List.getElem?_eq_some_iff.mp hm).1 hnodup).mp
          (hm.trans hx.symm)))
      simp [attemptFor, List.lookup_append, List.lookup_cons, hne]

theorem Heard.perm (h : Heard table targets replies d attempts) (hnodup : targets.Nodup)
    (hover : attempts.all Attempt.isOver = true) : (replies.map Prod.fst).Perm targets := by
  rw [List.perm_ext_iff_of_nodup h.once hnodup]
  intro n
  refine ⟨h.wanted n, ?_⟩
  intro hn
  by_contra hnot
  have hmem : attemptFor replies n ∈ attempts := h.attempts ▸ List.mem_map.mpr ⟨n, hn, rfl⟩
  have hn' := List.all_eq_true.mp hover _ hmem
  simp [attemptFor, Attempt.isOver, lookup_eq_none_iff.mpr hnot] at hn'

end Heard

/-!
## Steps while a run is at its connects

Others leave the directory as it is. The run itself rests, is dropped or gets an answer for one of
its attempts, and with the last answer it succeeds.
-/

section Steps

variable (hs : r.stage? id = some (.connecting current plan attempts))

include hs

theorem directory_step_of_other (horderly : r.Orderly) (hserial : event.IsSerial)
    (hother : r.owner? event ≠ some id) : (r.step event).1.directory = r.directory := by
  have hsingle : forall {run s}, r.stage? run = some s -> s.IsActive -> run = id :=
    fun hrun hactive => horderly.eq_of_isActive hs True.intro hrun hactive
  cases event with
  | registered address answer => exact (idle_registered r _ answer).directory
  | begun kind => exact (idle_begin r kind).directory
  | granted =>
      have hholder : r.holder = some id := horderly.single id _ hs True.intro
      have hnone : r.nextInLine? = none := by
        unfold nextInLine?
        rw [hholder]
        rfl
      have hgrant : r.grant = (r, []) := grant_of_nextInLine?_eq_none hnone
      exact congrArg (fun result => result.1.directory) hgrant
  | answered run answer =>
      have hnot : r.stage? run ≠ some .querying := by
        intro hquerying
        exact hother (congrArg some (hsingle hquerying True.intro))
      exact congrArg (fun result => result.1.directory) (answer_of_not_querying hnot answer)
  | replied run k answer =>
      rcases reply_cases r run k answer with hidle | ⟨_, _, _, _, _, hconnecting, _, _⟩
      · exact congrArg (fun result => result.1.directory) hidle
      · exact absurd (congrArg some (hsingle hconnecting True.intro)) hother
  | dropped run => exact (idle_abandon r run).directory
  | closed peer => exact hserial.elim

theorem own_step_cases (hlocked : r.Locked) (howner : r.owner? event = some id) :
    r.step event = (r, []) ∨ event = .dropped id ∨
      exists k answer n p, event = .replied id k answer ∧ attempts[k]? = some ⟨n, none⟩ ∧
        r.directory.peer? n = some p := by
  cases event with
  | registered address answer => cases howner
  | begun kind =>
      have hnone : r.stage? id = none := by
        rw [← Option.some.inj howner]
        simp [stage?]
      cases hnone.symm.trans hs
  | granted =>
      have hnext : r.nextInLine? = some id := howner
      unfold nextInLine? at hnext
      split at hnext
      · cases (hlocked.queued id (List.mem_of_head? hnext)).symm.trans hs
      · cases hnext
  | answered run answer =>
      cases howner
      refine Or.inl (answer_of_not_querying ?_ answer)
      rw [hs]
      exact fun heq => by cases heq
  | replied run k answer =>
      cases howner
      rcases reply_cases r id k answer with hidle | ⟨_, _, _, n, p, hconnecting, hk, hp⟩
      · exact Or.inl hidle
      · cases hs.symm.trans hconnecting
        exact Or.inr (Or.inr ⟨k, answer, n, p, rfl, hk, hp⟩)
  | dropped run =>
      cases howner
      exact Or.inr (Or.inl rfl)
  | closed peer => cases howner

theorem exists_answer_of_connecting (horderly : r.Orderly) (hserial : event.IsSerial)
    {current' : List PeerId} {plan' : Plan} {attempts' : List Attempt}
    (hs' : (r.step event).1.stage? id = some (.connecting current' plan' attempts')) :
    current' = current ∧ plan' = plan ∧
      ((attempts' = attempts ∧ (r.step event).1.directory = r.directory ∧
          r.share id [event] = []) ∨
        exists k answer n p, attempts[k]? = some ⟨n, none⟩ ∧ r.directory.peer? n = some p ∧
          attempts' = attempted attempts k n p answer ∧
          (r.step event).1.directory = r.directory.record (.answered n answer) ∧
          r.share id [event] = [.answered n answer]) := by
  by_cases howner : r.owner? event = some id
  · have hshare : r.share id [event] = (r.step event).2 := by
      unfold share
      rw [if_pos howner]
      exact List.append_nil _
    rw [hshare]
    rcases own_step_cases hs horderly.locked howner with
      hidle | rfl | ⟨k, answer, n, p, rfl, hk, hp⟩
    · rw [hidle] at hs' ⊢
      cases hs.symm.trans hs'
      exact ⟨rfl, rfl, Or.inl ⟨rfl, rfl, rfl⟩⟩
    · exfalso
      have hdropped : (r.step (.dropped id)).1.stage? id = _ := stage?_abandon_self hs rfl
      cases hdropped.symm.trans hs'
    · have hs'' : (r.connected n answer).stage? id = _ := hs
      have hstep : r.step (.replied id k answer) = r.reply id k answer := rfl
      rw [hstep] at hs' ⊢
      by_cases hlast : (attempted attempts k n p answer).all Attempt.isOver = true
      · exfalso
        rw [reply_last hs hk hp answer hlast, stage?_complete, stage?_setStage_self hs''] at hs'
        cases hs'
      · rw [reply_not_last hs hk hp answer hlast] at hs' ⊢
        rw [stage?_setStage_self hs''] at hs'
        cases hs'
        exact ⟨rfl, rfl, Or.inr ⟨k, answer, n, p, hk, hp, rfl, rfl, rfl⟩⟩
  · have hshare : r.share id [event] = [] := by
      unfold share
      rw [if_neg howner]
      rfl
    rw [stage?_step_of_owner?_ne howner] at hs'
    cases hs.symm.trans hs'
    exact ⟨rfl, rfl, Or.inl ⟨rfl, directory_step_of_other hs horderly hserial howner, hshare⟩⟩

theorem exists_last_answer (hlocked : r.Locked) (howner : r.owner? event = some id)
    (hend : (r.step event).1.Succeeded id) :
    exists k answer n p, attempts[k]? = some ⟨n, none⟩ ∧ r.directory.peer? n = some p ∧
      (attempted attempts k n p answer).all Attempt.isOver = true ∧
      r.step event =
        (((r.connected n answer).complete id current plan (attempted attempts k n p answer)).1,
          .answered n answer ::
            ((r.connected n answer).complete id current plan
              (attempted attempts k n p answer)).2) := by
  rcases hend with ⟨outcome, hend⟩
  rcases own_step_cases hs hlocked howner with hidle | rfl | ⟨k, answer, n, p, rfl, hk, hp⟩
  · rw [hidle] at hend
    cases hs.symm.trans hend
  · have hdropped : (r.step (.dropped id)).1.stage? id = _ := stage?_abandon_self hs rfl
    cases hdropped.symm.trans hend
  · have hs' : (r.connected n answer).stage? id = _ := hs
    have hstep : r.step (.replied id k answer) = r.reply id k answer := rfl
    rw [hstep] at hend ⊢
    by_cases hlast : (attempted attempts k n p answer).all Attempt.isOver = true
    · exact ⟨k, answer, n, p, hk, hp, hlast, reply_last hs hk hp answer hlast⟩
    · rw [reply_not_last hs hk hp answer hlast, stage?_setStage_self hs'] at hend
      cases hend

end Steps

/-!
## From the answer to the end

Until it is told a run has only asked for the members. Without connects it is over when it is told,
and otherwise it waits for their answers, and does nothing but hear them, up to its end.
-/

def sharedOf (r : Reconciler) (id : RunId) (queried : List Address) (replies : List Reply) :
    List Effect :=
  .query id :: (r.prelude queried ++ asks (r.staged queried) id (r.pendingOf queried) ++
    answers replies)

/-- The run that is told of these addresses has heard these answers so far. -/
def HeardOf (r : Reconciler) (queried : List Address) (replies : List Reply) (d : Directory)
    (attempts : List Attempt) : Prop :=
  Heard (r.staged queried) (r.pendingOf queried) replies d attempts

def completed (r : Reconciler) (id : RunId) (queried : List Address) (replies : List Reply)
    (now : Reconciler) : Reconciler × List Effect :=
  now.complete id r.directory.published (r.decision queried)
    ((r.pendingOf queried).map (attemptFor replies))

def informed (r : Reconciler) (queried : List Address) : Reconciler :=
  { r with directory := r.staged queried }

theorem step_told_of_nil (hs : r.stage? id = some .querying) (hnone : r.pendingOf queried = []) :
    r.step (.answered id (.ok queried)) =
      (((r.informed queried).complete id r.directory.published (r.decision queried) []).1,
        r.prelude queried ++
          ((r.informed queried).complete id r.directory.published (r.decision queried) []).2) := by
  have hconnect : (r.informed queried).connect id r.directory.published (r.decision queried)
      (r.listOf queried) =
        (r.informed queried).complete id r.directory.published (r.decision queried) [] := by
    have hpending : Topology.pending (r.informed queried).directory (r.listOf queried) = [] := hnone
    unfold connect
    rw [hpending]
  have htold := answer_told hs queried
  rw [← hconnect]
  exact htold

theorem step_told_of_ne_nil (hs : r.stage? id = some .querying)
    (hsome : r.pendingOf queried ≠ []) :
    r.step (.answered id (.ok queried)) =
      ((r.informed queried).setStage id (.connecting r.directory.published (r.decision queried)
          ((r.pendingOf queried).map fun n => ⟨n, none⟩)),
        r.prelude queried ++ asks (r.staged queried) id (r.pendingOf queried)) := by
  have hconnect : (r.informed queried).connect id r.directory.published (r.decision queried)
      (r.listOf queried) =
        ((r.informed queried).setStage id (.connecting r.directory.published (r.decision queried)
            ((r.pendingOf queried).map fun n => ⟨n, none⟩)),
          asks (r.staged queried) id (r.pendingOf queried)) := by
    unfold connect
    split
    · exact absurd ‹_› hsome
    · rfl
  have htold := answer_told hs queried
  show r.answer id (.ok queried) = _
  rw [htold]
  exact congrArg (fun result => (result.1, r.prelude queried ++ result.2)) hconnect

theorem stage?_step_told_of_ne_nil (hs : r.stage? id = some .querying)
    (hsome : r.pendingOf queried ≠ []) :
    (r.step (.answered id (.ok queried))).1.stage? id =
      some (.connecting r.directory.published (r.decision queried)
        ((r.pendingOf queried).map fun n => ⟨n, none⟩)) := by
  rw [step_told_of_ne_nil hs hsome]
  exact stage?_setStage_self (r := r.informed queried) hs _

theorem share_of_querying (hlocked : r.Locked) (hrooted : r.Rooted) (hnew : r.stage? id = none)
    (hs : (r.after history).stage? id = some .querying) : r.share id history = [.query id] := by
  have htally := tally_after hlocked hrooted hnew history
  rw [hs] at htally
  exact htally

section Course

variable {replies : List Reply}

theorem exists_replies_of_connecting (hledger : Ledger r []) (hregular : r.Regular)
    (hnew : r.stage? id = none) (hserial : forall e, e ∈ history -> e.IsSerial)
    (htold : Told r history id before queried)
    (hs : (r.after history).stage? id = some (.connecting current plan attempts)) :
    exists replies,
      HeardOf (r.after before) queried replies (r.after history).directory attempts ∧
        current = (r.after before).directory.published ∧
        plan = (r.after before).decision queried ∧
        r.share id history = (r.after before).sharedOf id queried replies := by
  have hlocked := hregular.locked
  have hknown := (hregular.run before).rooted.known
  rcases htold with ⟨⟨later, rfl⟩, hquerying⟩
  induction later using List.reverseRecOn generalizing attempts current plan with
  | nil =>
      rw [share_concat_of_owner? rfl, share_of_querying hlocked hregular.rooted hnew hquerying,
        after_concat]
      rw [after_concat] at hs
      by_cases hnone : (r.after before).pendingOf queried = []
      · exfalso
        have hquerying' : ((r.after before).informed queried).stage? id = some .querying :=
          hquerying
        rw [step_told_of_nil hquerying hnone, stage?_complete,
          stage?_setStage_self hquerying'] at hs
        cases hs
      · cases (stage?_step_told_of_ne_nil hquerying hnone).symm.trans hs
        rw [step_told_of_ne_nil hquerying hnone]
        refine ⟨[], Heard.nil _ _, rfl, rfl, ?_⟩
        rw [sharedOf, answers, List.map_nil, List.append_nil]
        rfl
  | append_singleton later event ih =>
      have hserial' : forall e, e ∈ before ++ .answered id (.ok queried) :: later ->
          e.IsSerial := by
        intro e he
        apply hserial e
        rw [← List.cons_append, ← List.append_assoc]
        exact List.mem_append_left _ he
      have hlast : event.IsSerial := hserial event (by simp)
      rw [← List.cons_append, ← List.append_assoc] at hs ⊢
      have htold : Told r (before ++ .answered id (.ok queried) :: later) id before queried :=
        ⟨⟨later, rfl⟩, hquerying⟩
      rcases connecting_of_told hlocked htold hs rfl with ⟨current', plan', attempts', hs'⟩
      rcases ih hserial' hs' with ⟨replies, hheard, hcurrent, hplan, hshare⟩
      have horderly : (r.after (before ++ .answered id (.ok queried) :: later)).Orderly :=
        hledger.orderly.run fun e he => (hserial' e he).takesLock
      rw [after_concat] at hs ⊢
      rw [share_append, hshare]
      rcases exists_answer_of_connecting hs' horderly hlast hs with
        ⟨rfl, rfl, ⟨rfl, hdirectory, hnone⟩ |
          ⟨k, answer, n, p, hk, hp, rfl, hdirectory, hone⟩⟩
      · rw [hdirectory, hnone, List.append_nil]
        exact ⟨replies, hheard, hcurrent, hplan, rfl⟩
      · rw [hdirectory, hone]
        refine ⟨replies ++ [(n, answer)], hheard.hear (nodup_pendingOf hknown queried) hk hp answer,
          hcurrent, hplan, ?_⟩
        simp [sharedOf, answers]

theorem Succeeds.not_over {past : List Event} (h : Succeeds r history event id)
    (hlocked : r.Locked) (hearlier : past <+: history) {s : RunStage}
    (hs : (r.after past).stage? id = some s) : s.isOver = false := by
  by_contra hover
  rw [Bool.not_eq_false] at hover
  rcases hearlier with ⟨more, rfl⟩
  rcases h with ⟨hnot, outcome, hend⟩
  have hstill := stage?_append_of_isOver hlocked hs hover more
  cases (stage?_append_of_isOver hlocked hstill hover [event]).symm.trans hend
  exact hnot ⟨outcome, hstill⟩

/-- From its answer up to its success a run is at its connects. -/
theorem Succeeds.connecting {past : List Event} (hlocked : r.Locked)
    (h : Succeeds r history event id) (htold : Told r past id before queried)
    (hearlier : past <+: history) :
    exists current plan attempts,
      (r.after past).stage? id = some (.connecting current plan attempts) := by
  rcases htold with ⟨⟨later, rfl⟩, hquerying⟩
  rcases beyondQuery_told hquerying queried with ⟨t, ht, hbeyond⟩
  rcases beyondQuery_after ((hlocked.run before).step _) ht hbeyond later with
    ⟨s, hs, hbeyond'⟩
  have hs' : (r.after (before ++ .answered id (.ok queried) :: later)).stage? id = some s := by
    rw [after_append]
    exact hs
  have hgoing := h.not_over hlocked hearlier hs'
  cases s with
  | connecting current plan attempts => exact ⟨current, plan, attempts, hs'⟩
  | waiting => exact hbeyond'.elim
  | querying => exact hbeyond'.elim
  | finished _ => cases hgoing
  | abandoned => cases hgoing

theorem exists_replies_of_succeeds (hledger : Ledger r []) (hregular : r.Regular)
    (hnew : r.stage? id = none) (hserial : forall e, e ∈ history -> e.IsSerial)
    (h : Succeeds r history event id) (htold : Told r (history ++ [event]) id before queried) :
    exists (replies : List Reply) (now : Reconciler),
      HeardOf (r.after before) queried replies now.directory
          (((r.after before).pendingOf queried).map (attemptFor replies)) ∧
        (replies.map Prod.fst).Perm ((r.after before).pendingOf queried) ∧
        r.after (history ++ [event]) =
          ((r.after before).completed id queried replies now).1 ∧
        r.share id (history ++ [event]) = (r.after before).sharedOf id queried replies ++
          ((r.after before).completed id queried replies now).2 := by
  have hlocked := hregular.locked
  have hknown := (hregular.run before).rooted.known
  have howner := h.owner?_eq
  rcases htold with ⟨⟨later, hsplit⟩, hquerying⟩
  rcases List.eq_nil_or_concat later with rfl | ⟨earlier, last, rfl⟩
  · rcases List.append_inj' hsplit rfl with ⟨rfl, hevent⟩
    cases hevent
    have hnone : (r.after history).pendingOf queried = [] := by
      by_contra hsome
      rcases h.right with ⟨outcome, hend⟩
      rw [after_concat] at hend
      cases (stage?_step_told_of_ne_nil hquerying hsome).symm.trans hend
    refine ⟨[], (r.after history).informed queried, Heard.nil _ _, ?_, ?_, ?_⟩
    · rw [hnone]
      exact List.Perm.refl _
    · rw [after_concat, step_told_of_nil hquerying hnone, completed, hnone]
      rfl
    · rw [share_concat_of_owner? howner, share_of_querying hlocked hregular.rooted hnew hquerying,
        step_told_of_nil hquerying hnone, sharedOf, completed, hnone]
      simp [answers, asks]
  · have hsplit' : history ++ [event] =
        (before ++ .answered id (.ok queried) :: earlier) ++ [last] := by
      rw [hsplit, List.concat_eq_append, List.append_assoc]
      rfl
    rcases List.append_inj' hsplit' rfl with ⟨rfl, hevent⟩
    cases hevent
    have htold : Told r (before ++ .answered id (.ok queried) :: earlier) id before queried :=
      ⟨⟨earlier, rfl⟩, hquerying⟩
    rcases h.connecting hlocked htold (List.prefix_refl _) with ⟨current, plan, attempts, hs⟩
    rcases exists_replies_of_connecting hledger hregular hnew hserial htold hs with
      ⟨replies, hheard, rfl, rfl, hshare⟩
    have hend := h.right
    rw [after_concat] at hend ⊢
    rcases exists_last_answer hs (hlocked.run _) howner hend with
      ⟨k, answer, n, p, hk, hp, hlast, hstep⟩
    have hmore := hheard.hear (nodup_pendingOf hknown queried) hk hp answer
    have hattempts : attempted attempts k n p answer =
        ((r.after before).pendingOf queried).map (attemptFor (replies ++ [(n, answer)])) :=
      hmore.attempts
    rw [share_concat_of_owner? howner, hshare, hstep]
    refine ⟨replies ++ [(n, answer)],
      (r.after (before ++ .answered id (.ok queried) :: earlier)).connected n answer,
      ?_, ?_, ?_, ?_⟩
    · rw [← hattempts]
      exact hmore
    · exact hmore.perm (nodup_pendingOf hknown queried) hlast
    · rw [completed, ← hattempts]
    · rw [completed, ← hattempts]
      simp [sharedOf, answers]

end Course

/-!
## The effects of a whole run

The warnings at the end of a run are about the connects that have failed.
-/

def missed (p : Peer) (e : ClusterError) : String :=
  "Cluster peer " ++ p.address.toText ++ " not connected, retrying next run: " ++ e.message

def warningFor (d : Directory) (replies : List Reply) (n : PeerId) : Option String :=
  match replies.lookup n, d.peer? n with
  | some (.error e), some p => some (missed p e)
  | _, _ => none

section Effects

variable {replies : List Reply}

theorem reply?_complete (r : Reconciler) (id : RunId) (current : List PeerId) (plan : Plan)
    (attempts : List Attempt) :
    (r.complete id current plan attempts).2.filterMap Effect.reply? = [] := by
  have hnotice : forall e : Effect, e.IsNotice -> e.reply? = none := by
    intro e he
    cases e with
    | answered peer answer => exact he.elim
    | _ => rfl
  rw [complete_eq, List.filterMap_eq_nil_iff]
  intro e he
  rcases List.mem_append.mp he with hearly | hreport
  · rcases List.mem_append.mp hearly with hwarning | hcommit
    · exact hnotice e (isNotice_warnings _ _ e hwarning)
    · have hcommit := isCommit_of_mem_commits hcommit
      cases e with
      | answered peer answer => cases hcommit
      | _ => rfl
  · exact hnotice e (isNotice_succeed _ _ _ e hreport)

theorem filterMap_prelude {β : Type} {f : Effect -> Option β}
    (hgauge : forall name value, f (.signal (.gauge name value)) = none)
    (hcreated : forall peers, f (.created peers) = none) (r : Reconciler) (queried : List Address) :
    (r.prelude queried).filterMap f = [] := by
  unfold prelude
  split
  · simp [sizeOf, sizeGauge, hgauge]
  · simp [sizeOf, sizeGauge, hgauge, hcreated]

theorem filterMap_asks {β : Type} {f : Effect -> Option β}
    (hask : forall run k n a, f (.ask run k n a) = none) (d : Directory) (id : RunId)
    (peers : List PeerId) : (asks d id peers).filterMap f = [] := by
  rw [List.filterMap_eq_nil_iff]
  intro e he
  rcases exists_of_mem_asks he with ⟨k, peer, p, _, _, rfl⟩
  exact hask id k peer p.address

theorem reply?_answers (replies : List Reply) :
    (answers replies).filterMap Effect.reply? = replies := by
  rw [answers, List.filterMap_map]
  exact List.filterMap_some

theorem reply?_sharedOf (r : Reconciler) (id : RunId) (queried : List Address)
    (replies : List Reply) : (r.sharedOf id queried replies).filterMap Effect.reply? = replies := by
  have hprelude := filterMap_prelude (f := Effect.reply?) (fun _ _ => rfl) (fun _ => rfl) r queried
  have hasks := filterMap_asks (f := Effect.reply?) (fun _ _ _ _ => rfl) (r.staged queried) id
    (r.pendingOf queried)
  rw [sharedOf, List.filterMap_cons_none rfl, List.filterMap_append, List.filterMap_append,
    hprelude, hasks, reply?_answers]
  rfl

theorem warning?_sharedOf (r : Reconciler) (id : RunId) (queried : List Address)
    (replies : List Reply) : (r.sharedOf id queried replies).filterMap Effect.warning? = [] := by
  have hprelude := filterMap_prelude (f := Effect.warning?) (fun _ _ => rfl) (fun _ => rfl) r
    queried
  have hasks := filterMap_asks (f := Effect.warning?) (fun _ _ _ _ => rfl) (r.staged queried) id
    (r.pendingOf queried)
  have hanswers : (answers replies).filterMap Effect.warning? = [] := by
    rw [answers, List.filterMap_map]
    exact List.filterMap_eq_nil_iff.mpr fun _ _ => rfl
  rw [sharedOf, List.filterMap_cons_none rfl, List.filterMap_append, List.filterMap_append,
    hprelude, hasks, hanswers]
  rfl

theorem warning?_complete (r : Reconciler) (id : RunId) (current : List PeerId) (plan : Plan)
    (attempts : List Attempt) :
    (r.complete id current plan attempts).2.filterMap Effect.warning? =
      (warnings r.directory attempts).filterMap Effect.warning? := by
  have hcommits : (plan.commits r.directory current).filterMap Effect.warning? = [] := by
    rw [List.filterMap_eq_nil_iff]
    intro e he
    have hcommit := isCommit_of_mem_commits he
    cases e with
    | signal s => cases hcommit
    | _ => rfl
  have hreport : ((r.carriedOut current plan).succeed id
      (plan.outcome r.directory current)).2.filterMap Effect.warning? = [] := by
    unfold succeed
    dsimp only
    split
    · rfl
    · rfl
  rw [complete_eq, List.filterMap_append, List.filterMap_append, hcommits, hreport,
    List.append_nil, List.append_nil]

/-- The warnings at the end of a run are about the connects that have failed. -/
theorem HeardOf.warnings_eq (h : HeardOf r queried replies d attempts) :
    (warnings d attempts).filterMap Effect.warning? =
      (r.pendingOf queried).filterMap (warningFor (r.staged queried) replies) := by
  have hattempts : attempts = (r.pendingOf queried).map (attemptFor replies) := h.attempts
  rw [warnings, List.filterMap_filterMap, hattempts, List.filterMap_map]
  apply List.filterMap_congr
  intro n _
  have hpeer : d.peer? n = ((r.staged queried).peer? n).map (settled replies n) := by
    rw [h.directory]
    exact peer?_replay_answers h.once _ n
  show ((attemptFor replies n).warning? d).bind Effect.warning? = warningFor _ replies n
  unfold Attempt.warning? warningFor
  simp only [attemptFor, hpeer]
  cases hlookup : replies.lookup n with
  | none => rfl
  | some answer =>
      cases answer with
      | ok channel => rfl
      | error e =>
          cases (r.staged queried).peer? n with
          | none => rfl
          | some p => simp [settled, hlookup, missed, Effect.warning?, Except.map]

end Effects

/-!
## The end of a run

A peer that has got an answer is on the list, had no link before, and keeps what the answer has made
of it. Nothing but the plan changes the published list.
-/

/-- How the connects end of a run that was told of these addresses in `c`: its own effects, and the
directory at its end. -/
structure Tried (c : Reconciler) (queried : List Address) (effects : List Effect) (d : Directory) :
    Prop where
  published : d.published = c.listOf queried
  /-- Each peer that was to be connected has got one answer, and nobody else has got any. -/
  answered : ((effects.filterMap Effect.reply?).map Prod.fst).Perm (c.pendingOf queried)
  /-- There is one warning for each connect that has failed. -/
  warned : effects.filterMap Effect.warning? =
    (c.pendingOf queried).filterMap
      (warningFor (c.staged queried) (effects.filterMap Effect.reply?))
  /-- A peer whose connect has succeeded has its channel. -/
  connected : forall n channel, (n, .ok channel) ∈ effects.filterMap Effect.reply? ->
    n ∈ d.published ∧ exists p, (c.staged queried).peer? n = some p ∧
      d.peer? n = some { p with link := .connected channel }
  /-- A peer whose connect has failed is as it was. -/
  missed : forall n e, (n, .error e) ∈ effects.filterMap Effect.reply? ->
    n ∈ d.published ∧ exists p, (c.staged queried).peer? n = some p ∧ p.state = .created ∧
      d.peer? n = some p

section End

variable {c now : Reconciler} {replies : List Reply}

theorem lookup_eq_some {answer : Except ClusterError Channel}
    (hnodup : (replies.map Prod.fst).Nodup) (h : (n, answer) ∈ replies) :
    replies.lookup n = some answer := by
  induction replies with
  | nil => cases h
  | cons first rest ih =>
      rcases List.nodup_cons.mp hnodup with ⟨hnot, hrest⟩
      rcases List.mem_cons.mp h with rfl | hmem
      · exact List.lookup_cons_self
      · have hne : (n == first.1) = false := by
          rw [beq_eq_false_iff_ne]
          rintro rfl
          exact hnot (List.mem_map.mpr ⟨_, hmem, rfl⟩)
        rw [List.lookup_cons, hne]
        exact ih hrest hmem

theorem peer?_carriedOut (h : n ∈ plan.list current) :
    (r.carriedOut current plan).directory.peer? n = r.directory.peer? n := by
  cases plan with
  | keep => rfl
  | replace next created kept => exact peer?_replaced_of_not_left (Or.inr h)

theorem published_carriedOut (r : Reconciler) (plan : Plan) :
    (r.carriedOut r.directory.published plan).directory.published =
      plan.list r.directory.published := by
  cases plan with
  | keep => rfl
  | replace next created kept => exact published_closeAll _ _

theorem directory_completed (c : Reconciler) (id : RunId) (queried : List Address)
    (replies : List Reply) (now : Reconciler) :
    (c.completed id queried replies now).1.directory =
      (now.carriedOut c.directory.published (c.decision queried)).directory := by
  rw [completed, complete_eq, directory_conclude]

theorem HeardOf.peer?_completed
    (h : HeardOf c queried replies now.directory attempts) {answer : Except ClusterError Channel}
    (hmem : (n, answer) ∈ replies) (id : RunId) :
    n ∈ c.listOf queried ∧ exists p, (c.staged queried).peer? n = some p ∧ p.link = .created ∧
      (c.completed id queried replies now).1.directory.peer? n =
        some (p.finishConnect answer).1 := by
  rcases mem_pendingOf_iff.mp (h.wanted n (List.mem_map.mpr ⟨_, hmem, rfl⟩)) with
    ⟨hlist, p, hp, hlink⟩
  refine ⟨hlist, p, hp, hlink, ?_⟩
  rw [directory_completed, peer?_carriedOut hlist, h.directory, peer?_replay_answers h.once, hp]
  simp [settled, lookup_eq_some h.once hmem]

theorem HeardOf.published_completed
    (hknown : forall id, id ∈ c.directory.published -> id < c.directory.peers.length)
    (h : HeardOf c queried replies now.directory attempts) (id : RunId) :
    (c.completed id queried replies now).1.directory.published = c.listOf queried := by
  have hquiet : Quiet (answers replies) := by
    intro next hnext
    rcases List.mem_map.mp hnext with ⟨_, _, heq⟩
    cases heq
  have hcurrent : now.directory.published = c.directory.published := by
    rw [h.directory, published_replay hquiet, published_staged hknown]
  rw [directory_completed, ← hcurrent, published_carriedOut, hcurrent]
  rfl

theorem HeardOf.tried
    (hknown : forall id, id ∈ c.directory.published -> id < c.directory.peers.length)
    (h : HeardOf c queried replies now.directory ((c.pendingOf queried).map (attemptFor replies)))
    (hperm : (replies.map Prod.fst).Perm (c.pendingOf queried)) :
    Tried c queried
      (c.sharedOf id queried replies ++ (c.completed id queried replies now).2)
      (c.completed id queried replies now).1.directory := by
  have hreplies : (c.sharedOf id queried replies ++
      (c.completed id queried replies now).2).filterMap Effect.reply? = replies := by
    rw [List.filterMap_append, reply?_sharedOf, completed, reply?_complete, List.append_nil]
  have hpublished := h.published_completed hknown id
  constructor
  · exact hpublished
  · rw [hreplies]
    exact hperm
  · rw [hreplies, List.filterMap_append, warning?_sharedOf, completed, warning?_complete,
      h.warnings_eq]
    rfl
  · rw [hreplies, hpublished]
    intro n channel hmem
    rcases h.peer?_completed hmem id with ⟨hlist, p, hp, hlink, hend⟩
    refine ⟨hlist, p, hp, ?_⟩
    rw [hend]
    simp [Peer.finishConnect, hlink]
  · rw [hreplies, hpublished]
    intro n e hmem
    rcases h.peer?_completed hmem id with ⟨hlist, p, hp, hlink, hend⟩
    exact ⟨hlist, p, hp, (Peer.state_eq_created_iff p).mpr hlink, hend⟩

end End

/-!
## Once in each run, until the first success
-/

/-- The connects of a run that was told of these addresses after `before`. -/
structure TriesOnce (r : Reconciler) (history : List Event) (id : RunId) (before : List Event)
    (queried : List Address) : Prop where
  /-- It asks for no peer twice. -/
  once : ((r.asked id history).map Prod.fst).Nodup
  /-- It asks for those on its list that have no link when the connects begin, each under its own
  address. -/
  asks : forall n a, (n, a) ∈ r.asked id history <->
    n ∈ (r.after before).listOf queried ∧ exists p,
      ((r.after before).staged queried).peer? n = some p ∧ p.state = .created ∧ a = p.address
  /-- So it asks for a remote of its list exactly if no connect of that peer has ever succeeded. -/
  retries : forall n p, n ∈ (r.after before).listOf queried ->
    ((r.after before).staged queried).peer? n = some p -> p.isSelf = false ->
      (¬Opened (r.trace before) n -> ((r.asked id history).map Prod.fst).count n = 1) ∧
      (Opened (r.trace before) n -> ((r.asked id history).map Prod.fst).count n = 0)
  /-- However the connectors answer, it comes to its end. -/
  ends : forall connector : Nat -> Except ClusterError Channel, exists later,
    (forall e, e ∈ later -> exists k, e = .replied id k (connector k)) ∧
      (r.after (before ++ .answered id (.ok queried) :: later)).Succeeded id
  tried : forall past event rest, history = past ++ event :: rest -> Succeeds r past event id ->
    Tried (r.after before) queried (r.share id history) (r.after (past ++ [event])).directory

theorem mem_asked_iff (hlocked : r.Locked) (htold : Told r history id before queried)
    {a : Address} : (n, a) ∈ r.asked id history <->
      n ∈ (r.after before).listOf queried ∧ exists p,
        ((r.after before).staged queried).peer? n = some p ∧ p.state = .created ∧
          a = p.address := by
  rw [asked_of_told hlocked htold, List.mem_filterMap]
  constructor
  · rintro ⟨m, hm, hpair⟩
    rcases mem_pendingOf_iff.mp hm with ⟨hlist, p, hp, hlink⟩
    rw [hp] at hpair
    cases hpair
    exact ⟨hlist, p, hp, (Peer.state_eq_created_iff p).mpr hlink, rfl⟩
  · rintro ⟨hlist, p, hp, hstate, rfl⟩
    refine ⟨n, mem_pendingOf_iff.mpr ⟨hlist, p, hp, (Peer.state_eq_created_iff p).mp hstate⟩, ?_⟩
    rw [hp]
    rfl

theorem map_fst_asked_of_told (hlocked : r.Locked) (htold : Told r history id before queried) :
    (r.asked id history).map Prod.fst = (r.after before).pendingOf queried := by
  rw [asked_of_told hlocked htold]
  exact map_fst_asked _ _

theorem triesOnce_of_told (hledger : Ledger r []) (hregular : r.Regular) (hnew : r.runs = [])
    (hwired : Wired r.directory []) (hserial : forall e, e ∈ history -> e.IsSerial)
    (htold : Told r history id before queried) : TriesOnce r history id before queried := by
  have hlocked := hregular.locked
  have hrooted := hregular.rooted
  have hknown := (hrooted.run before).known
  have hnone := stage?_eq_none_of_nil hnew id
  have hearlier : forall e, e ∈ before -> e.IsSerial := by
    rcases htold with ⟨⟨later, rfl⟩, _⟩
    exact fun e he => hserial e (List.mem_append_left _ he)
  have hasked := map_fst_asked_of_told hlocked htold
  constructor
  · rw [hasked]
    exact nodup_pendingOf hknown queried
  · exact fun _ _ => mem_asked_iff hlocked htold
  · intro n p hn hp hremote
    have hcreated := created_iff_not_opened hledger hregular hwired hearlier hn hp hremote
    rw [hasked]
    constructor
    · intro hnot
      have hmem := mem_pendingOf_iff.mpr ⟨hn, p, hp, hcreated.mpr hnot⟩
      exact List.count_eq_one_of_mem (nodup_pendingOf hknown queried) hmem
    · intro hopened
      apply List.count_eq_zero_of_not_mem
      intro hmem
      rcases mem_pendingOf_iff.mp hmem with ⟨_, q, hq, hlink⟩
      cases hp.symm.trans hq
      exact hcreated.mp hlink hopened
  · exact exists_end_of_told hlocked hrooted hnew htold.right queried
  · rintro past event rest rfl hsucceeds
    have hserial' : forall e, e ∈ past -> e.IsSerial :=
      fun e he => hserial e (List.mem_append_left _ he)
    have htold' := hsucceeds.told hlocked hrooted hnone htold
    rcases hsucceeds.right with ⟨outcome, hend⟩
    rw [List.append_cons, share_append, share_of_isOver (hlocked.run _) hend rfl, List.append_nil]
    rcases exists_replies_of_succeeds hledger hregular hnone hserial' hsucceeds htold' with
      ⟨replies, now, hheard, hperm, hafter, hshare⟩
    rw [hshare, hafter]
    exact hheard.tried hknown hperm

/-- In every history of runs that take the lock, a run that is told of the members asks exactly once
for each remote of its list without a link, and for nobody else. The connects do not disturb each
other: whose own connect succeeds is connected, and all others are asked for again by the next run.
A run that has not been told asks for nobody. -/
theorem tries_once (internalAddress : Option Address) (check : HealthCheck) {history : List Event}
    (hserial : forall e, e ∈ history -> e.IsSerial) :
    (forall id, (forall before queried,
        ¬Told (create internalAddress check) history id before queried) ->
      (create internalAddress check).asked id history = []) ∧
    forall id before queried, Told (create internalAddress check) history id before queried ->
      TriesOnce (create internalAddress check) history id before queried := by
  constructor
  · intro id hnone
    exact asked_of_not_told hnone
  · intro id before queried htold
    exact triesOnce_of_told (ledger_create _ _) (regular_create _ _) rfl (wired_create _ _) hserial
      htold

def persistence : List Event :=
  [.begun .serial, .granted,
    .answered 0 (.ok [memberA, memberB]),
    .replied 0 1 (.ok 1), .replied 0 0 (.error (.config "unreachable")),
    .begun .serial, .granted,
    .answered 1 (.ok [memberB, memberA]), .replied 1 0 (.ok 2),
    .begun .serial, .granted,
    .answered 2 (.ok [memberA, memberB])]

theorem tries_once_of_persistence :
    (forall e, e ∈ persistence -> e.IsSerial) ∧
    Told (create none (NodeHealth.check false)) persistence 0 [.begun .serial, .granted]
      [memberA, memberB] ∧
    (create none (NodeHealth.check false)).asked 3 persistence = [] ∧
    TriesOnce (create none (NodeHealth.check false)) persistence 0 [.begun .serial, .granted]
      [memberA, memberB] := by
  have hserial : forall e, e ∈ persistence -> e.IsSerial := by
    simp [persistence, Event.IsSerial]
  have htold : Told (create none (NodeHealth.check false)) persistence 0
      [.begun .serial, .granted] [memberA, memberB] :=
    ⟨⟨_, rfl⟩, rfl⟩
  have htries := tries_once none (NodeHealth.check false) hserial
  refine ⟨hserial, htold, htries.left 3 ?_, htries.right 0 _ _ htold⟩
  rintro before queried ⟨⟨later, hsplit⟩, _⟩
  have hmem : Event.answered 3 (.ok queried) ∈ persistence := by
    rw [hsplit]
    simp
  simp [persistence] at hmem

end Reconciler
end ClusterNode
