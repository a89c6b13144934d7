import Holdem.Proofs.Session.Abiding
import Holdem.Proofs.Session.GrantedJoin
import Holdem.Proofs.Session.StaleCards
import Holdem.Proofs.Table.Reseating

/-!
# Seen at the table

A hand is dealt only where the hero has been seen since the session came to the table. The snapshot
alone is no witness to that, because a deal seats the hero before it is sent: after one that failed
the snapshot shows a hero whom it has seated itself. But the hero is never seated without having
been seen, be it by a join, by a poll or by a lobby, and one sighting stands behind all that follows.
-/

namespace Holdem

/-- What an intent can be answered that shows the hero at a table: that the join is granted, or a
lobby with the hero in it that a start asks for. -/
inductive Intent.Sights (settings : Settings) (tableId : UInt32) : Intent → Exchange → Prop
  | join (buyIn : Option Chips) (credentials : Option Credentials) (reply : JoinReply) :
    Sights settings tableId (.join buyIn) ⟨.coordinator credentials (.join tableId), .ok reply⟩
  | lobby (opponents : List Address) (credentials : Option Credentials) {lobby : Lobby}
      (listed : settings.hero ∈ lobby.wallets) :
    Sights settings tableId (.start opponents)
      ⟨.coordinator credentials (.lobby tableId), .ok lobby⟩

/-- The law of a table where the hero is seated only after having been seen. -/
def sighting (settings : Settings) (tableId : UInt32) (seen : Prop) (intent : Intent) :
    Discipline Table :=
  .ofSecrets tableId (fun secrets => (∃ secret ∈ secrets, secret.1 = settings.hero) → seen)
    fun request answer => intent.Sights settings tableId ⟨request, answer⟩ → seen

/-- A start may ask for a deal at that table, once the hero has been seen there. -/
def mayDeal (tableId : UInt32) (seen : Prop) (intent : Intent) (call : CoordinatorCall) : Prop :=
  (Job.user (.dispatch intent)).deals → call.isDeal → call.tableId = tableId ∧ seen

namespace Settings

variable {settings : Settings} {tableId : UInt32} {seen : Prop} {opponents : List Address}

theorem mayDeal_of_spoken {intent : Intent} {new : CoordinatorCall → Prop}
    (undealt : ∀ call, new call → ¬call.isDeal) (call : CoordinatorCall)
    (spoken : call.label?.isSome → new call) : mayDeal tableId seen intent call :=
  fun _ deals => absurd deals (undealt call (spoken (call.isSome_label?_of_isDeal deals)))

/-- A start that has come to its seats has seen the hero: in the snapshot or in a lobby. -/
theorem abides_seats (settings : Settings) (shared : settings.mode.isSolo = false)
    (opponents : List Address) :
    Step.Abides (sighting settings tableId seen (.start opponents))
      (mayDeal tableId seen (.start opponents)) (fun _ => seen)
      (settings.seats tableId opponents) := by
  have fetched : Step.Abides (sighting settings tableId seen (.start opponents))
      (mayDeal tableId seen (.start opponents))
      (fun lobby : Lobby => settings.hero ∈ lobby.wallets → seen)
      (settings.call (.lobby tableId)) := by
    have gives : Step.Gives (sighting settings tableId seen (.start opponents)).expects
        (fun lobby : Lobby => settings.hero ∈ lobby.wallets → seen)
        (settings.call (.lobby tableId)) := by
      apply Step.gives_mono (settings.gives_call (.lobby tableId))
      rintro lobby ⟨credentials, expected⟩ listed
      exact expected (.lobby opponents credentials listed)
    exact Step.abides_of_speaks (settings.keeps_call _) gives (settings.speaks_call_plain rfl)
      (mayDeal_of_spoken fun _ => False.elim)
  simp only [seats]
  split
  · apply Step.abides_bind fetched
    intro lobby sees
    apply Step.abides_bind Step.abides_require
    intro others joined
    apply Step.abides_bind Step.abides_require
    intro checked _
    have listed : settings.hero ∈ lobby.wallets := by
      apply Decidable.byContradiction
      intro unlisted
      simp [Lobby.opponentsOf, unlisted] at joined
    exact Step.abides_pure (sees listed)
  · apply Step.abides_bind Step.abides_require
    intro seats _
    rw [if_neg (by simp [shared])]
    apply Step.abides_bind Step.abides_table
    intro table holds
    split
    · rename_i seated
      exact Step.abides_pure (holds.2 (Table.isSeated_iff_secrets.mp seated))
    apply Step.abides_bind fetched
    intro lobby sees
    split
    · rename_i listed
      exact Step.abides_pure (sees listed)
    · exact Step.abides_throw _

/-- A start has a hand dealt only when the hero has been seen. -/
theorem abides_start (settings : Settings) (shared : settings.mode.isSolo = false)
    (opponents : List Address) :
    Step.Abides (sighting settings tableId seen (.start opponents))
      (mayDeal tableId seen (.start opponents)) (fun _ => True)
      (settings.start tableId opponents) := by
  have undealing : ∀ {α : Type} {step : Step α} {new : CoordinatorCall → Prop},
      Step.Keeps (sighting settings tableId seen (.start opponents)) step →
      Step.Speaks settings new step → (∀ call, new call → ¬call.isDeal) →
        Step.Abides (sighting settings tableId seen (.start opponents))
          (mayDeal tableId seen (.start opponents)) (fun _ => True) step :=
    fun kept speaks undealt =>
      Step.abides_of_speaks kept (Step.gives_true _) speaks (mayDeal_of_spoken undealt)
  apply Step.abides_bind (settings.abides_seats shared opponents)
  rintro ⟨seats, named⟩ sees
  have begins : (sighting settings tableId seen (.start opponents)).AdmitsPartial fun table =>
      let begun :=
        table.beginHand settings.mode settings.hero seats settings.buyIn settings.soloStack
      some (begun, begun.handNumber) := by
    intro table holds
    have stays := table.beginHand_tableId settings.mode settings.hero seats settings.buyIn
      settings.soloStack
    exact ⟨⟨stays.trans holds.1, fun _ => sees⟩, trivial⟩
  have dealt : Step.Abides (sighting settings tableId seen (.start opponents))
      (mayDeal tableId seen (.start opponents)) (fun _ => True)
      (settings.call (.deal tableId { players := named })) := by
    apply Step.abides_of_speaks (settings.keeps_call _) (Step.gives_true _)
      (settings.speaks_call rfl)
    intro call spoken _ deals
    rw [spoken (call.isSome_label?_of_isDeal deals)]
    exact ⟨rfl, sees⟩
  have notes : ∀ size transaction,
      (sighting settings tableId seen (.start opponents)).Admits fun table =>
        table.noteProof size transaction :=
    fun _ _ => Discipline.admits_ofSecrets_of_same fun _ => ⟨rfl, rfl⟩
  have fetched : Step.Keeps (sighting settings tableId seen (.start opponents))
      (settings.fetchHole tableId) :=
    settings.keeps_fetchHole tableId fun _ _ _ =>
      Discipline.admits_ofSecrets (fun _ => rfl) fun _ _ _ => sees
  have changes := @Step.speaks_changeWith settings UInt32 (fun _ => False)
  apply Step.abides_bind (undealing (Step.keeps_changeWith begins) (changes _) nofun)
  intro handNumber _
  apply Step.abides_bind dealt
  intro reply _
  apply Step.abides_bind
    (undealing (Step.keeps_change (notes _ _)) (@Step.speaks_change _ (fun _ => False) _) nofun)
  intro _ _
  apply Step.abides_bind (undealing fetched (settings.speaks_fetchHole tableId) _)
  · exact fun _ _ => Step.abides_pure trivial
  · rintro _ rfl
    exact Bool.false_ne_true

theorem keeps_sighting_join (settings : Settings) (buyIn : Option Chips) :
    Step.Keeps (sighting settings tableId seen (.join buyIn)) (settings.join tableId buyIn) := by
  apply settings.keeps_join_of_reply
  · exact fun hash => Discipline.admits_ofSecrets_of_same fun _ => ⟨rfl, rfl⟩
  · intro credentials reply expected
    apply Discipline.admits_ofSecrets
    · exact fun table => table.takeSeat_tableId settings.hero reply.seat.toNat _
    · exact fun _ _ _ => expected (.join buyIn credentials reply)

theorem abides_dispatch_sighting (settings : Settings) (shared : settings.mode.isSolo = false)
    (intent : Intent) :
    (settings.dispatch intent).run.Abides (sighting settings tableId seen intent).onTable
      (mayDeal tableId seen intent) fun _ => True := by
  apply settings.abides_dispatch
  intro table holds _
  rw [holds.1]
  have undealing : (Job.user (.dispatch intent)).deals = false →
      Step.Keeps (sighting settings tableId seen intent) (settings.carryOut tableId intent) →
        Step.Abides (sighting settings tableId seen intent) (mayDeal tableId seen intent)
          (fun _ => True) (settings.carryOut tableId intent) := by
    intro undealt kept
    apply Procedure.abides_of_keeps kept (Step.gives_true _)
    apply Procedure.calls_of_all
    intro call deals
    rw [undealt] at deals
    exact absurd deals Bool.false_ne_true
  cases intent with
  | start opponents => exact settings.abides_start shared opponents
  | join buyIn => exact undealing rfl (settings.keeps_sighting_join buyIn)
  | bet | reveal | showdown => exact undealing rfl (settings.keeps_ofSecrets nofun nofun)

end Settings

namespace World

variable {settings : Settings} {first tableId : UInt32} {log : List Event} {world : World}
  {index : Nat} {job : Job} {body : DealRequest}

/-- The hero has been seen at a table since the session came to it: a join has succeeded, a poll
that lists the hero has been merged, or a start was told a lobby with the hero in it. -/
inductive Sighted (settings : Settings) (tableId : UInt32) (early : List Event) (selected : World)
    (since : List Event) (world : World) : Prop
  | joined {index : Nat} {buyIn : Option Chips} {credentials : Option Credentials}
      {reply : JoinReply} {outcome : Outcome}
      (granted : Event.moved index (.user (.dispatch (.join buyIn)))
        (some ⟨.coordinator credentials (.join tableId), .ok reply⟩) ∈ since)
      (succeeded : world.running[index]? =
        some ⟨.user (.dispatch (.join buyIn)), .finish (.ok outcome)⟩)
  | polled {log later : List Event} {event : Event} {before after : World} {poll : Poll}
      (split : since = log ++ event :: later) (path : Path (Stays settings) selected log before)
      (merges : MergesTold settings (early ++ log) poll before event after)
      (listed : settings.hero ∈ poll.entries.map PolledPlayer.address)
  | lobby {index : Nat} {opponents : List Address} {credentials : Option Credentials}
      {lobby : Lobby}
      (told : Event.moved index (.user (.dispatch (.start opponents)))
        (some ⟨.coordinator credentials (.lobby tableId), .ok lobby⟩) ∈ since)
      (listed : settings.hero ∈ lobby.wallets)

/-- By the time a start has the token, a join that was granted has succeeded. -/
theorem succeeded_of_granted {holder joining : Nat} {rest : Procedure Session job.Result}
    {buyIn : Option Chips} {exchange : Exchange} (run : Run settings (opened first) log world)
    (exclusive : Exclusive settings log world (some holder))
    (underWay : world.running[holder]? = some ⟨job, rest⟩) (deals : job.deals)
    (granted : Event.moved joining (.user (.dispatch (.join buyIn))) (some exchange) ∈ log)
    (joins : exchange.Joins) :
    ∃ outcome, world.running[joining]? =
      some ⟨.user (.dispatch (.join buyIn)), .finish (.ok outcome)⟩ := by
  rcases exists_joined run granted joins with ⟨left, ready, gives⟩
  have apart : holder ≠ joining := by
    rintro rfl
    cases underWay.symm.trans ready
    exact absurd deals Bool.false_ne_true
  cases exclusive.outside joining _ (fun same => apart (Option.some.inj same)) ready with
  | fresh _ unturned => exact absurd ⟨_, _, granted⟩ unturned
  | ended result =>
    rcases result with fault | outcome
    · exact absurd rfl (gives fault)
    · exact ⟨outcome, ready⟩

/-- In a shared session no hand is ever asked for at a table but where the hero has been seen since
the session came to that table. -/
theorem deal_after_sighting (shared : settings.mode.isSolo = false)
    (run : Run settings (opened first) log world)
    (sends : world.Sends index job (.deal tableId body)) :
    ∃ early since selected, log = early ++ since ∧
      Selected settings first tableId early selected ∧
      Path (Stays settings) selected since world ∧
      Sighted settings tableId early selected since world := by
  rcases exists_selected run with ⟨early, since, selected, rfl, reached, path⟩
  rcases run.exclusive rfl with ⟨holder, exclusive⟩
  rcases sends.deals exclusive with ⟨rfl, deals⟩
  rcases Job.exists_start_of_deals deals with ⟨opponents, rfl⟩
  rcases sends with ⟨credentials, resume, underWay⟩
  generalize here : world.session.table.tableId = present at reached
  -- what has been seen by now does not change along the stretch, and so neither do the laws
  let seen := Sighted settings present early selected since world
  have abiding : Abiding (sighting settings present seen) (mayDeal present seen)
      (fun table => table.tableId = present ∧
        ((∃ secret ∈ table.secrets, secret.1 = settings.hero) → seen)) world := by
    apply abiding_of_path reached path
    · exact fun _ => rfl
    · exact fun intent => settings.abides_dispatch_sighting shared intent
    · exact ⟨rfl, fun ⟨_, member, _⟩ => absurd member List.not_mem_nil⟩
    · rintro mover intent ⟨request, answer⟩ member sights
      cases sights with
      | join buyIn credentials reply =>
        rcases succeeded_of_granted run exclusive underWay deals (List.mem_append_right _ member)
          ⟨credentials, present, reply, rfl⟩ with ⟨outcome, succeeded⟩
        exact .joined member succeeded
      | lobby opponents credentials listed => exact .lobby member listed
    · intro log event later before after poll split toBefore merges holds
      -- a poll that does not name the hero seats nobody who was not seated before
      rcases merges.2 with ⟨_, _, raw, rfl, _, _, merged⟩
      rw [merged]
      refine ⟨(before.session.table.merge_tableId settings.mode poll).trans holds.1, ?_⟩
      intro seated
      by_cases listed : settings.hero ∈ poll.entries.map PolledPlayer.address
      · exact .polled split toBefore merges listed
      · apply holds.2
        apply Table.isSeated_iff_secrets.mp
        exact Table.isSeated_of_merge shared listed (Table.isSeated_iff_secrets.mpr seated)
  have asks := (abiding.abides _ _ (List.mem_of_getElem? underWay)).1 rfl rfl
  rcases asks with ⟨rfl, sees⟩
  exact ⟨early, since, selected, rfl, reached, path, sees⟩

/-- The call that the job at an index is about to make. -/
def dueCall? (world : World) (index : Nat) : Option CoordinatorCall :=
  match world.running[index]? with
  | some ⟨_, .ask (.coordinator _ call) _⟩ => some call
  | _ => none

theorem sends_of_dueCall? {call : CoordinatorCall} (due : world.dueCall? index = some call) :
    ∃ job, world.Sends index job call := by
  simp only [dueCall?] at due
  split at due
  · rename_i job credentials other resume underWay
    cases due
    exact ⟨job, credentials, resume, underWay⟩
  · cases due

/-- The hero, who has taken a seat, is about to have a hand dealt with the villain. -/
def aboutToDeal : World :=
  (play .headsUp (fun _ _ _ => true) joined
    (Move.alone (.user (.dispatch (.start [villain]))) 1 7 (.hosting ""))).2

theorem dueCall?_aboutToDeal :
    aboutToDeal.dueCall? 1 = some (.deal 7 { players := ["hero", villain] }) := by
  decide +kernel

theorem deal_after_sighting_of_join :
    ∃ log index job body early since selected, Run .headsUp (opened 7) log aboutToDeal ∧
      aboutToDeal.Sends index job (.deal 7 body) ∧ log = early ++ since ∧
      Selected .headsUp 7 7 early selected ∧ Path (Stays .headsUp) selected since aboutToDeal ∧
      Sighted .headsUp 7 early selected since aboutToDeal := by
  rcases exists_run_joined with ⟨_, run⟩
  have onwards := run.append (run_play .headsUp joined
    (Move.alone (.user (.dispatch (.start [villain]))) 1 7 (.hosting "")))
  rcases sends_of_dueCall? dueCall?_aboutToDeal with ⟨job, sends⟩
  rcases deal_after_sighting rfl onwards sends with
    ⟨early, since, selected, split, reached, path, sighted⟩
  exact ⟨_, 1, job, _, early, since, selected, onwards, sends, split, reached, path, sighted⟩

end World

end Holdem
