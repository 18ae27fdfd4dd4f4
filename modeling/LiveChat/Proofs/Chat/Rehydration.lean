import LiveChat.Chat.Enrichment

/-!
# What a replay depends on

An enricher keeps its options, and whether it takes a message in depends on them alone
(`Enricher.isOk_enrich`). So all enrichers that one process goes through agree on the rows
that a message can be rebuilt from (`Enricher.replays_congr`).
-/

namespace LiveChat.Chat

open LiveChat.Store

/-- A message with neither text nor emotes, which is dropped. -/
def ChatMessage.isBlank (message : ChatMessage) : Bool :=
  message.message = "" ∧ message.emotes = []

namespace Enricher

theorem options_enrich (enricher : Enricher) (incoming : IncomingMessage)
    (origin : Option Platform) (commands : Bool) (now : Time.Duration) :
    (enricher.enrich incoming origin commands now).2.options = enricher.options := by
  unfold enrich
  dsimp only
  split <;> rfl

theorem options_enrichValue (enricher : Enricher) (value : Json) (origin : Option Platform)
    (now : Time.Duration) :
    (enricher.enrichValue value origin now).2.options = enricher.options := by
  unfold enrichValue
  split
  · rw [options_enrich]
  · rfl

theorem options_rehydrate (enricher : Enricher) (row : StoredMessage) :
    (enricher.rehydrate row).2.options = enricher.options := by
  unfold rehydrate
  rw [options_enrich]

/-- A message is taken in unless its draft is blank. -/
theorem isOk_enrich (enricher : Enricher) (incoming : IncomingMessage)
    (origin : Option Platform) (commands : Bool) (now : Time.Duration) :
    (enricher.enrich incoming origin commands now).1.isOk =
      !(draft enricher.options incoming origin).isBlank := by
  unfold enrich
  by_cases blank : (draft enricher.options incoming origin).isBlank = true
  · have parts := of_decide_eq_true blank
    rw [if_pos parts, blank]
    rfl
  · have parts := of_decide_eq_false (Bool.eq_false_iff.mpr blank)
    rw [if_neg parts, Bool.eq_false_iff.mpr blank]
    rfl

/-- The payload of the message that is rebuilt from a row, if one can be. -/
def replayed? (enricher : Enricher) (row : StoredMessage) : Option String :=
  match (enricher.rehydrate row).1 with
  | .ok message => some message.payloadJson
  | .error _ => none

def replays (enricher : Enricher) (row : StoredMessage) : Bool := (enricher.replayed? row).isSome

/-- Enrichers with the same options rebuild messages from the same rows. -/
theorem replays_congr {left right : Enricher} (same : left.options = right.options)
    (row : StoredMessage) : left.replays row = right.replays row := by
  have accepted (enricher : Enricher) :
      enricher.replays row = (enricher.rehydrate row).1.isOk := by
    unfold replays replayed?
    cases (enricher.rehydrate row).1 <;> rfl
  rw [accepted, accepted]
  unfold rehydrate
  rw [isOk_enrich, isOk_enrich, same]

end Enricher

end LiveChat.Chat
