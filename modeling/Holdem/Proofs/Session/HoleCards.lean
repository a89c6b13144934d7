import Holdem.Proofs.Session.Abiding
import Holdem.Proofs.Session.StaleCards

/-!
# Whose cards are known

The only private cards in a snapshot are the hero's, and each pair was told by the coordinator for
the table where the session is. Players come and go, and their places change with every deal, join
and poll; what is carried from one list of players to the next is matched by address, so nobody gets
the cards of somebody else. When the session turns to a table the cards of the old one are gone, and
none of them can come late, because whoever still waited for them would have the token.
-/

namespace Holdem

/-- The law of a table where the only private cards are the hero's, and have been told. -/
def knowing (settings : Settings) (tableId : UInt32) (told : Card × Card → Prop) :
    Discipline Table :=
  .ofSecrets tableId
    (fun secrets => ∀ secret ∈ secrets, ∀ cards, secret.2 = some cards →
      secret.1 = settings.hero ∧ told cards)
    fun request answer => ∀ credentials reply,
      (⟨request, answer⟩ : Exchange) =
        ⟨.coordinator credentials (.cards tableId settings.hero), .ok reply⟩ →
          told (⟨reply.first⟩, ⟨reply.second⟩)

namespace Settings

variable {tableId : UInt32} {told : Card × Card → Prop}

theorem keeps_knowing_start (settings : Settings) (opponents : List Address) :
    Step.Keeps (knowing settings tableId told) (settings.start tableId opponents) := by
  apply settings.keeps_start_of_replies
  · intro seats _
    apply Discipline.admits_ofSecrets
    · exact fun table => table.beginHand_tableId settings.mode settings.hero seats _ _
    · intro table _ secret member cards held
      have blind := table.blind_beginHand settings.mode settings.hero seats settings.buyIn
        settings.soloStack
      exact absurd (held.symm.trans (Table.blind_iff.mp blind secret member)) nofun
  · exact fun _ _ => Discipline.admits_ofSecrets_of_same fun _ => ⟨rfl, rfl⟩
  · intro credentials reply expected _ _
    apply Discipline.admits_ofSecrets
    · exact fun _ => rfl
    · intro table known secret member cards held
      rcases Table.mem_secrets_storeHole member with old | rfl
      · exact known secret old cards held
      · rw [← Option.some.inj held]
        exact ⟨rfl, expected credentials reply rfl⟩

theorem keeps_knowing_join (settings : Settings) (buyIn : Option Chips) :
    Step.Keeps (knowing settings tableId told) (settings.join tableId buyIn) := by
  apply settings.keeps_join
  · exact fun hash => Discipline.admits_ofSecrets_of_same fun _ => ⟨rfl, rfl⟩
  · intro seat
    apply Discipline.admits_ofSecrets
    · exact fun table => table.takeSeat_tableId settings.hero seat _
    · intro table known secret member cards held
      rcases table.secrets_takeSeat settings.hero seat (buyIn.getD settings.buyIn) with
        same | ⟨_, seated⟩
      · rw [same] at member
        exact known secret member cards held
      · rcases List.mem_cons.mp (seated.mem_iff.mp member) with rfl | old
        · exact absurd held nofun
        · exact known secret old cards held

theorem abides_dispatch_knowing (settings : Settings) (intent : Intent) :
    (settings.dispatch intent).run.Abides (knowing settings tableId told).onTable (fun _ => True)
      fun _ => True := by
  apply settings.abides_dispatch
  intro table holds _
  rw [holds.1]
  apply Procedure.abides_of_keeps _ (Step.gives_true _) (Procedure.calls_of_all _ fun _ => trivial)
  cases intent with
  | start opponents => exact settings.keeps_knowing_start opponents
  | join buyIn => exact settings.keeps_knowing_join buyIn
  | bet | reveal | showdown => exact settings.keeps_ofSecrets nofun nofun

end Settings

namespace World

variable {settings : Settings} {first : UInt32} {log : List Event} {world : World}

/-- In the course of events an intent was told private cards of the hero at a table. -/
def ToldCards (settings : Settings) (tableId : UInt32) (log : List Event) (cards : Card × Card) :
    Prop :=
  ∃ index intent credentials reply,
    Event.moved index (.user (.dispatch intent))
      (some ⟨.coordinator credentials (.cards tableId settings.hero), .ok reply⟩) ∈ log ∧
    cards = (⟨reply.first⟩, ⟨reply.second⟩)

/-- In every run, a player whose private cards are known is the hero, and the session was told these
cards for the hero at its present table, and since it came there. -/
theorem hole_cards_are_told (run : Run settings (opened first) log world) {player : Player}
    (seated : player ∈ world.session.table.players) {cards : Card × Card}
    (held : player.hole = some cards) :
    player.address = settings.hero ∧ ∃ early since selected, log = early ++ since ∧
      Selected settings first world.session.table.tableId early selected ∧
      Path (Stays settings) selected since world ∧
      ToldCards settings world.session.table.tableId since cards := by
  rcases exists_selected run with ⟨early, since, selected, rfl, reached, path⟩
  let tableId := world.session.table.tableId
  let law := knowing settings tableId (ToldCards settings tableId since)
  have abiding : Abiding (fun _ => law) (fun _ _ => True) law.invariant world := by
    apply abiding_of_path reached path
    · exact fun _ => rfl
    · exact fun intent => settings.abides_dispatch_knowing intent
    · exact ⟨rfl, fun _ member => absurd member List.not_mem_nil⟩
    · rintro index intent ⟨request, answer⟩ member credentials reply same
      cases same
      exact ⟨index, intent, credentials, reply, member, rfl⟩
    · intro _ _ _ before after poll _ _ merges holds
      rcases merges.2 with ⟨_, _, _, _, _, _, merged⟩
      rw [merged]
      refine ⟨(before.session.table.merge_tableId settings.mode poll).trans holds.1, ?_⟩
      intro secret member cards held
      rcases Table.mem_secrets_merge member with hidden | old
      · exact absurd (held.symm.trans hidden) nofun
      · exact holds.2 secret old cards held
  rcases abiding.holds.2 _ (List.mem_map_of_mem seated) cards held with ⟨hero, told⟩
  exact ⟨hero, early, since, selected, rfl, reached, path, told⟩

theorem hole_cards_are_told_of_deal :
    ∃ log player cards early since selected, Run .headsUp (opened 7) log (dealt false) ∧
      player ∈ (dealt false).session.table.players ∧ player.hole = some cards ∧
      player.address = "hero" ∧ log = early ++ since ∧
      Selected .headsUp 7 (dealt false).session.table.tableId early selected ∧
      Path (Stays .headsUp) selected since (dealt false) ∧
      ToldCards .headsUp (dealt false).session.table.tableId since cards := by
  rcases exists_run_dealt false with ⟨_, run⟩
  rcases Option.bind_eq_some_iff.mp dealt_granted.1 with ⟨player, found, held⟩
  have seated := Table.mem_of_player? found
  rcases hole_cards_are_told run seated held with
    ⟨hero, early, since, selected, split, reached, path, told⟩
  exact ⟨_, player, _, early, since, selected, run, seated, held, hero, split, reached, path, told⟩

end World

end Holdem
