import TennisAlerts.Properties.ClaimCoherence
import TennisAlerts.Properties.RowScripts

/-!
# Rows and calls over whole runs

From a host at rest, whatever the workers, the endpoints, crashes and the clock
do: a committed row is never lost and each later version of it follows its life,
and every recorded call carries what the rows it names still store.
-/

namespace TennisAlerts.HostCore

open TennisAlerts.Concurrent TennisAlerts.Database

/-! ## Unrestricted runs -/

section

variable {digests : Digests} {deployed : Settings → Prop} {host : Host}
  {config target : Config Host Input Label Actor}
  (rest : SoundRest host)
  (reachable : (hostSystem digests deployed).Reachable System.anyAction (System.idle host) config)

include rest reachable

theorem rowsKept_of_run : RowsKept config.shared := by
  have implies : ∀ actor label host input, System.anyAction actor label host input → False →
      leasedAtDispatch actor label host input := fun _ _ _ _ _ => False.elim
  exact rowsKept_of_reachable implies rest reachable

theorem hostMove_of_run (step : (hostSystem digests deployed).Step System.anyAction config target) :
    ∃ actor, HostMove False actor config.shared target.shared :=
  hostMove_of_step (fun _ _ _ _ _ => False.elim) rest reachable step

end

/-! ## Rows -/

section

variable {digests : Digests} {deployed : Settings → Prop} {host : Host}
  {config target : Config Host Input Label Actor}
  (rest : SoundRest host)
  (reachable : (hostSystem digests deployed).Reachable System.anyAction (System.idle host) config)

include rest reachable

/-- The committed versions of a row along a run follow one another. -/
theorem follows_of_reachable
    (later : (hostSystem digests deployed).Reachable System.anyAction config target)
    (channel : Channel) (id : String) :
    Follows (config.shared.row channel id).base (target.shared.row channel id).base := by
  induction later with
  | refl => exact refl_of Follows _
  | tail run step follows =>
      have before := reachable.trans run
      obtain ⟨actor, move⟩ := hostMove_of_run rest before step
      have kept := rowsKept_of_run rest before
      exact trans_of Follows follows (move.follows kept channel id)

/-- A committed row stays, with its content, its attempts and what the provider
accepted; a closed row is never touched again. -/
theorem row_lifecycle
    (later : (hostSystem digests deployed).Reachable System.anyAction config target)
    (channel : Channel) (id : String) (row : OutboxRow)
    (stored : (config.shared.row channel id).base = some row) :
    ∃ new, (target.shared.row channel id).base = some new ∧ Succession row new ∧ SoundRow new := by
  have follows := follows_of_reachable rest reachable later channel id
  rw [stored] at follows
  cases found : (target.shared.row channel id).base with
  | none =>
      rw [found] at follows
      exact follows.elim
  | some new =>
      rw [found] at follows
      have kept := rowsKept_of_run rest (reachable.trans later)
      exact ⟨new, rfl, follows, kept.sound channel id new (.inl found)⟩

end

/-! ## Calls -/

section

variable {leased : Prop} {actor : Actor} {before after : Host}

/-- What a call carried when it began is still stored. -/
theorem Composed.move {call : Call} (composed : Composed before call) (kept : RowsKept before)
    (move : HostMove leased actor before after) : Composed after call := by
  have stays : ∀ channel id content, StoredContent before channel id content →
      StoredContent after channel id content :=
    fun channel id _ stored => stored.follows (move.follows kept channel id)
  cases composed with
  | system id content channel ids stored recipient subject body =>
      exact .system id content channel ids (stays _ id content stored) recipient subject body
  | digest contents date text channel stored recipient dated composed body =>
      apply Composed.digest contents date text channel _ recipient _ composed body
      · exact stored.imp fun id content => stays .subscriber id content
      · exact fun content member => (dated content member).move kept move

/-- A call that a change records carries what its rows store. -/
theorem HostMove.composed (move : HostMove leased actor before after) {call : Call}
    (began : Event.began call ∈ after.log) :
    Event.began call ∈ before.log ∨ Composed before call := by
  have older : ∀ event : Event, event ≠ .began call → Event.began call ∈ event :: before.log →
      Event.began call ∈ before.log := by
    intro event other member
    rcases List.mem_cons.mp member with same | old
    · exact absurd same.symm other
    · exact old
  cases move with
  | sweep step =>
      cases step with
      | aside rows slots history =>
          rw [history] at began
          exact .inl began
      | committed event quiet =>
          apply Or.inl (older event _ began)
          rintro rfl
          cases quiet
      | recorded event quiet =>
          apply Or.inl (older event _ began)
          rintro rfl
          cases quiet
      | _ => exact .inl began
  | send worker is step =>
      cases step with
      | dispatched channel ids held => exact .inl (older _ (by simp) began)
      | began other caller primed composed =>
          by_cases same : other = call
          · subst same
            exact .inr composed
          · exact .inl (older _ (by simpa using same) began)
      | ended other outcome caller => exact .inl (older _ (by simp) began)
      | _ => exact .inl began
  | crash => exact .inl (older _ (by simp) began)

end

section

variable {digests : Digests} {deployed : Settings → Prop} {host : Host}
  {config : Config Host Input Label Actor}

/-- Every call of a run carries what the rows that it names store: a system email
its own row, a digest rows of one address whose slots are on one date. -/
theorem composed_of_reachable (rest : SoundRest host)
    (reachable : (hostSystem digests deployed).Reachable System.anyAction (System.idle host) config)
    (call : Call) (began : Event.began call ∈ config.shared.log) : Composed config.shared call := by
  induction reachable with
  | refl =>
      change Event.began call ∈ host.log at began
      rw [rest.history] at began
      cases began
  | tail run step composed =>
      obtain ⟨actor, move⟩ := hostMove_of_run rest run step
      have kept := rowsKept_of_run rest run
      rcases move.composed began with old | now
      · exact (composed old).move kept move
      · exact now.move kept move

end

/-! ## A run that sends -/

theorem queuedHost_soundRest : SoundRest queuedHost where
  history := rfl
  unheld := queuedHost_atRest.unheld
  slots _ := rfl
  sound channel id row stored := by
    cases channel with
    | subscriber => cases stored
    | system =>
        change (if id = "notice" then Cell.committed _ else Cell.empty).base = some row at stored
        split at stored
        · cases stored
          exact FreshRow.sound ⟨rfl, rfl, rfl, rfl⟩
        · cases stored

/-- The row that `plainSend` sends is submitted, with its content and its message. -/
theorem plainSend_lifecycle : ∃ config row new,
    (queuedHost.row .system "notice").base = some row ∧
    (hostSystem plainDigests anySettings).Reachable System.anyAction (System.idle queuedHost)
      config ∧
    (config.shared.row .system "notice").base = some new ∧ new.status = .submitted ∧
    Succession row new ∧ SoundRow new := by
  have legal : ∀ move ∈ plainSend ++ System.acts (.worker "first") .none 6,
      (hostSystem plainDigests anySettings).Legal move :=
    List.forall_mem_append.mpr ⟨legal_plainSend, System.legal_acts⟩
  have replayed : ((hostSystem plainDigests anySettings).replay System.anyAction
      (System.idle queuedHost) (plainSend ++ System.acts (.worker "first") .none 6)).any
        (fun config => (config.shared.row .system "notice").base.any fun row =>
          row.status = .submitted) = true := by
    decide
  obtain ⟨config, reachable, submitted⟩ := System.exists_reachable_of_replay legal replayed
  obtain ⟨new, stored, succession, sound⟩ :=
    row_lifecycle queuedHost_soundRest .refl reachable .system "notice" _ rfl
  rw [stored] at submitted
  exact ⟨config, _, new, rfl, reachable, stored, by simpa using submitted, succession, sound⟩

theorem digestHost_soundRest : SoundRest digestHost where
  history := rfl
  unheld channel id := by
    cases channel with
    | system => rfl
    | subscriber => exact digestHost_unclaimed.rows id
  slots key := by
    change (if key = "slot" then Cell.committed _ else Cell.empty).held = none
    split <;> rfl
  sound channel id row stored := by
    cases channel with
    | system => cases stored
    | subscriber =>
        change (if id = "row" then Cell.committed _ else Cell.empty).base = some row at stored
        split at stored
        · cases stored
          exact FreshRow.sound ⟨rfl, rfl, rfl, rfl⟩
        · cases stored

/-- The entry begins a digest with the row. -/
def Event.digests (id : String) : Event → Bool
  | .began call => decide (call.channel = .subscriber) && decide (id ∈ call.rowIds)
  | _ => false

/-- The call for a digest carries its row. -/
theorem toDigestCall_composed : ∃ config call,
    (hostSystem plainDigests anySettings).Reachable System.anyAction (System.idle digestHost)
      config ∧
    Event.began call ∈ config.shared.log ∧ call.channel = .subscriber ∧ "row" ∈ call.rowIds ∧
    Composed config.shared call := by
  have replayed : ((hostSystem plainDigests anySettings).replay System.anyAction
      (System.idle digestHost) (toDigestCall "first")).any (fun config =>
        config.shared.log.any (Event.digests "row")) = true := by
    decide
  obtain ⟨config, reachable, called⟩ :=
    System.exists_reachable_of_replay (legal_toDigestCall "first") replayed
  obtain ⟨event, member, includes⟩ := List.any_eq_true.mp called
  cases event with
  | began call =>
      simp only [Event.digests, Bool.and_eq_true, decide_eq_true_eq] at includes
      exact ⟨config, call, reachable, member, includes.1, includes.2,
        composed_of_reachable digestHost_soundRest reachable call member⟩
  | _ => cases includes

end TennisAlerts.HostCore
