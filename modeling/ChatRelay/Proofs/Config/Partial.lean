import ChatRelay.Config.Reader
import ChatRelay.Proofs.Json.Collections

/-!
# Configuration files that name some values

A file need not name every value of a configuration, nor every bound of a queue. What it names is a
patch, and its texts are the objects with these entries, in any order and however they are spelled.
Of a server, a file changes exactly the values that it names (`ServerPatch`). Of a client it changes
more: bounds of a queue that are left out where others of the same queue are named become the
standard ones, not those of a client (`ClientPatch.read`, `only_named_change`).
-/

namespace ChatRelay

open Json (Reads Setting Texts Whole)
open Json.Setting (given)

/-! ## Patches -/

/-- What a file names of the bounds of a queue. -/
structure LimitsPatch where
  highWater : Option Nat
  lowWater : Option Nat
  /-- The file may name that the number is not bounded. -/
  maxMessages : Option (Option Nat)
  policy : Option OverflowPolicy

/-- What a file names of the configuration of a server. -/
structure ServerPatch where
  bind : Option (List String)
  port : Option Nat
  backend : Option Backend
  framing : Option Framing
  maxLineLength : Option (Option Nat)
  outbound : Option LimitsPatch
  greeting : Option (Option String)
  drainMillis : Option Nat
  tickMillis : Option Nat

/-- What a file names of the configuration of a client. -/
structure ClientPatch where
  host : Option String
  port : Option Nat
  framing : Option Framing
  maxLineLength : Option (Option Nat)
  outbound : Option LimitsPatch
  inbound : Option LimitsPatch
  drainMillis : Option Nat

/-- The bounds with those that are named. -/
def LimitsPatch.onto (patch : LimitsPatch) (limits : QueueLimits) : QueueLimits where
  highWater := patch.highWater.getD limits.highWater
  lowWater := patch.lowWater.getD limits.lowWater
  maxMessages := patch.maxMessages.getD limits.maxMessages
  policy := patch.policy.getD limits.policy

/-- The configuration with the values that are named, and all others as they are. -/
def ServerPatch.onto (patch : ServerPatch) (config : ServerConfig) : ServerConfig where
  bind := patch.bind.getD config.bind
  port := patch.port.getD config.port
  backend := patch.backend.getD config.backend
  framing := patch.framing.getD config.framing
  maxLineLength := patch.maxLineLength.getD config.maxLineLength
  outbound := (patch.outbound.map (·.onto config.outbound)).getD config.outbound
  greeting := patch.greeting.getD config.greeting
  drainMillis := patch.drainMillis.getD config.drainMillis
  tickMillis := patch.tickMillis.getD config.tickMillis

/-- The configuration with the values that are named, and all others as they are. -/
def ClientPatch.onto (patch : ClientPatch) (config : ClientConfig) : ClientConfig where
  host := patch.host.getD config.host
  port := patch.port.getD config.port
  framing := patch.framing.getD config.framing
  maxLineLength := patch.maxLineLength.getD config.maxLineLength
  outbound := (patch.outbound.map (·.onto config.outbound)).getD config.outbound
  inbound := (patch.inbound.map (·.onto config.inbound)).getD config.inbound
  drainMillis := patch.drainMillis.getD config.drainMillis

/-- The configuration of a client with the values that are named, where bounds that are not named
become the standard ones if others of the same queue are. -/
def ClientPatch.read (patch : ClientPatch) : ClientConfig :=
  { patch.onto .standard with
    outbound := (patch.outbound.map (·.onto .standard)).getD ClientConfig.standard.outbound
    inbound := (patch.inbound.map (·.onto .standard)).getD ClientConfig.standard.inbound }

/-! ## The texts of a patch -/

/-- A size in memory, or a number of milliseconds. -/
def sizeTexts : Nat → Texts := Json.natural maxSize

/-- A port number. -/
def portTexts : Nat → Texts := Json.natural maxPort

/-- What a patch makes of each bound, in the order of the fields. -/
def LimitsPatch.settings (patch : LimitsPatch) : List (List (Setting QueueLimits)) := [
  given "high_water" sizeTexts (fun n limits => { limits with highWater := n }) patch.highWater,
  given "low_water" sizeTexts (fun n limits => { limits with lowWater := n }) patch.lowWater,
  given "max_messages" (Json.option sizeTexts) (fun n limits => { limits with maxMessages := n })
    patch.maxMessages,
  given "policy" Json.choice (fun policy limits => { limits with policy }) patch.policy]

/-- The objects with the bounds that are named. -/
def LimitsPatch.texts (patch : LimitsPatch) : Texts := Json.object patch.settings.flatten

/-- What a patch makes of each value, in the order of the fields. -/
def ServerPatch.settings (patch : ServerPatch) : List (List (Setting ServerConfig)) := [
  given "bind" (Json.list Json.text) (fun bind config => { config with bind }) patch.bind,
  given "port" portTexts (fun port config => { config with port }) patch.port,
  given "backend" Json.choice (fun backend config => { config with backend }) patch.backend,
  given "framing" Json.choice (fun framing config => { config with framing }) patch.framing,
  given "max_line_length" (Json.option sizeTexts)
    (fun n config => { config with maxLineLength := n }) patch.maxLineLength,
  given "outbound" LimitsPatch.texts
    (fun outbound config => { config with outbound := outbound.onto .standard }) patch.outbound,
  given "greeting" (Json.option Json.text) (fun greeting config => { config with greeting })
    patch.greeting,
  given "drain_timeout_ms" sizeTexts (fun n config => { config with drainMillis := n })
    patch.drainMillis,
  given "tick_ms" sizeTexts (fun n config => { config with tickMillis := n }) patch.tickMillis]

/-- The objects with the values that are named. -/
def ServerPatch.texts (patch : ServerPatch) : Texts := Json.object patch.settings.flatten

/-- What a patch makes of each value, in the order of the fields. -/
def ClientPatch.settings (patch : ClientPatch) : List (List (Setting ClientConfig)) := [
  given "host" Json.text (fun host config => { config with host }) patch.host,
  given "port" portTexts (fun port config => { config with port }) patch.port,
  given "framing" Json.choice (fun framing config => { config with framing }) patch.framing,
  given "max_line_length" (Json.option sizeTexts)
    (fun n config => { config with maxLineLength := n }) patch.maxLineLength,
  given "outbound" LimitsPatch.texts
    (fun outbound config => { config with outbound := outbound.onto .standard }) patch.outbound,
  given "inbound" LimitsPatch.texts
    (fun inbound config => { config with inbound := inbound.onto .standard }) patch.inbound,
  given "drain_timeout_ms" sizeTexts (fun n config => { config with drainMillis := n })
    patch.drainMillis]

/-- The objects with the values that are named. -/
def ClientPatch.texts (patch : ClientPatch) : Texts := Json.object patch.settings.flatten

/-! ## Single values -/

theorem reads_size (n : Nat) : Reads Config.size (sizeTexts n) n :=
  Json.reads_natural (Nat.le_refl _) _ n

theorem reads_millis (n : Nat) : Reads Config.millis (sizeTexts n) n :=
  Json.reads_natural (Nat.le_refl _) _ n

theorem reads_port (n : Nat) : Reads Config.port (portTexts n) n :=
  Json.reads_natural (by decide) _ n

theorem reads_string (value : String) : Reads Config.text (Json.text value) value :=
  Json.reads_text _ value

theorem reads_optional_size (n : Option Nat) :
    Reads (Json.expectOption Config.size) (Json.option sizeTexts n) n :=
  Json.reads_option reads_size (Json.solid_natural _) n

theorem reads_policy (policy : OverflowPolicy) :
    Reads Json.expectChoice (Json.choice policy) policy :=
  Json.reads_choice (by cases policy <;> rfl)

theorem reads_backend (backend : Backend) : Reads Json.expectChoice (Json.choice backend) backend :=
  Json.reads_choice (by cases backend <;> rfl)

theorem reads_framing (framing : Framing) : Reads Json.expectChoice (Json.choice framing) framing :=
  Json.reads_choice (by cases framing <;> rfl)

/-! ## Patches as they are read -/

namespace LimitsPatch

variable (patch : LimitsPatch)

theorem offered : List.Forall₂ Setting.Offered Config.limitFields patch.settings :=
  .cons (Setting.offered_given fun n => Json.reads_field (reads_size n)) <|
  .cons (Setting.offered_given fun n => Json.reads_field (reads_size n)) <|
  .cons (Setting.offered_given fun n => Json.reads_field (reads_optional_size n)) <|
  .cons (Setting.offered_given fun policy => Json.reads_field (reads_policy policy)) .nil

theorem apart : patch.settings.flatten.Pairwise Setting.Apart := by
  rw [settings, List.pairwise_flatten]
  constructor
  · simp [given, List.pairwise_map]
  · simp [given, Setting.apart_iff]

theorem changes : Setting.Changes patch.settings.flatten patch.onto :=
  Setting.changes_flatten <|
    .cons (Setting.changes_given QueueLimits.highWater (fun _ => rfl) patch.highWater) <|
    .cons (Setting.changes_given QueueLimits.lowWater (fun _ => rfl) patch.lowWater) <|
    .cons (Setting.changes_given QueueLimits.maxMessages (fun _ => rfl) patch.maxMessages) <|
    .cons (Setting.changes_given QueueLimits.policy (fun _ => rfl) patch.policy) .nil

/-- Bounds that are not named are the standard ones, whichever queue they are for. -/
theorem reads : Reads Config.limits patch.texts (patch.onto .standard) :=
  Json.reads_given "QueueLimits" QueueLimits.standard (by decide) patch.offered patch.apart
    patch.changes

end LimitsPatch

namespace ServerPatch

variable (patch : ServerPatch)

theorem offered : List.Forall₂ Setting.Offered Config.serverFields patch.settings :=
  .cons (Setting.offered_given fun bind =>
    Json.reads_field (Json.reads_list reads_string Json.solid_text bind)) <|
  .cons (Setting.offered_given fun port => Json.reads_field (reads_port port)) <|
  .cons (Setting.offered_given fun backend => Json.reads_field (reads_backend backend)) <|
  .cons (Setting.offered_given fun framing => Json.reads_field (reads_framing framing)) <|
  .cons (Setting.offered_given fun n => Json.reads_field (reads_optional_size n)) <|
  .cons (Setting.offered_given fun outbound => Json.reads_field outbound.reads) <|
  .cons (Setting.offered_given fun greeting =>
    Json.reads_field (Json.reads_option reads_string Json.solid_text greeting)) <|
  .cons (Setting.offered_given fun n => Json.reads_field (reads_millis n)) <|
  .cons (Setting.offered_given fun n => Json.reads_field (reads_millis n)) .nil

theorem apart : patch.settings.flatten.Pairwise Setting.Apart := by
  rw [settings, List.pairwise_flatten]
  constructor
  · simp [given, List.pairwise_map]
  · simp [given, Setting.apart_iff]

theorem changes : Setting.Changes patch.settings.flatten fun config =>
    { patch.onto config with
      outbound := (patch.outbound.map (·.onto .standard)).getD config.outbound } :=
  Setting.changes_flatten <|
    .cons (Setting.changes_given ServerConfig.bind (fun _ => rfl) patch.bind) <|
    .cons (Setting.changes_given ServerConfig.port (fun _ => rfl) patch.port) <|
    .cons (Setting.changes_given ServerConfig.backend (fun _ => rfl) patch.backend) <|
    .cons (Setting.changes_given ServerConfig.framing (fun _ => rfl) patch.framing) <|
    .cons (Setting.changes_given ServerConfig.maxLineLength (fun _ => rfl)
      patch.maxLineLength) <|
    .cons (Setting.changes_given_map ServerConfig.outbound
      (fun outbound config => { config with outbound }) (fun _ => rfl)
      (LimitsPatch.onto · .standard) patch.outbound) <|
    .cons (Setting.changes_given ServerConfig.greeting (fun _ => rfl) patch.greeting) <|
    .cons (Setting.changes_given ServerConfig.drainMillis (fun _ => rfl) patch.drainMillis) <|
    .cons (Setting.changes_given ServerConfig.tickMillis (fun _ => rfl) patch.tickMillis) .nil

/-- The queue of a server has the standard bounds, so that it keeps those that are not named. -/
theorem reads : Reads ServerConfig.reader patch.texts (patch.onto .standard) := by
  have hgiven := Json.reads_given "ServerConfig" ServerConfig.standard (by decide) patch.offered
    patch.apart patch.changes
  exact hgiven

end ServerPatch

namespace ClientPatch

variable (patch : ClientPatch)

theorem offered : List.Forall₂ Setting.Offered Config.clientFields patch.settings :=
  .cons (Setting.offered_given fun host => Json.reads_field (reads_string host)) <|
  .cons (Setting.offered_given fun port => Json.reads_field (reads_port port)) <|
  .cons (Setting.offered_given fun framing => Json.reads_field (reads_framing framing)) <|
  .cons (Setting.offered_given fun n => Json.reads_field (reads_optional_size n)) <|
  .cons (Setting.offered_given fun outbound => Json.reads_field outbound.reads) <|
  .cons (Setting.offered_given fun inbound => Json.reads_field inbound.reads) <|
  .cons (Setting.offered_given fun n => Json.reads_field (reads_millis n)) .nil

theorem apart : patch.settings.flatten.Pairwise Setting.Apart := by
  rw [settings, List.pairwise_flatten]
  constructor
  · simp [given, List.pairwise_map]
  · simp [given, Setting.apart_iff]

theorem changes : Setting.Changes patch.settings.flatten fun config =>
    { patch.onto config with
      outbound := (patch.outbound.map (·.onto .standard)).getD config.outbound
      inbound := (patch.inbound.map (·.onto .standard)).getD config.inbound } :=
  Setting.changes_flatten <|
    .cons (Setting.changes_given ClientConfig.host (fun _ => rfl) patch.host) <|
    .cons (Setting.changes_given ClientConfig.port (fun _ => rfl) patch.port) <|
    .cons (Setting.changes_given ClientConfig.framing (fun _ => rfl) patch.framing) <|
    .cons (Setting.changes_given ClientConfig.maxLineLength (fun _ => rfl)
      patch.maxLineLength) <|
    .cons (Setting.changes_given_map ClientConfig.outbound
      (fun outbound config => { config with outbound }) (fun _ => rfl)
      (LimitsPatch.onto · .standard) patch.outbound) <|
    .cons (Setting.changes_given_map ClientConfig.inbound
      (fun inbound config => { config with inbound }) (fun _ => rfl)
      (LimitsPatch.onto · .standard) patch.inbound) <|
    .cons (Setting.changes_given ClientConfig.drainMillis (fun _ => rfl) patch.drainMillis) .nil

/-- The queues of a client do not have the standard bounds. -/
theorem reads : Reads ClientConfig.reader patch.texts patch.read :=
  Json.reads_given "ClientConfig" ClientConfig.standard (by decide) patch.offered patch.apart
    patch.changes

end ClientPatch

/-! ## Files -/

theorem Bytes.toText?_ofText (text : String) : Bytes.toText? (Bytes.ofText text) = some text := by
  rw [Bytes.toText?, Bytes.ofText, String.fromUTF8?]
  exact dif_pos text.isValidUTF8

/-- A file with a text that a reader takes for a value is read as that value. -/
theorem Config.ofFile_whole {α : Type} {reader : Json.Reader α} {texts : Texts} {value : α}
    (h : Reads reader texts value) {text : String} (htext : Whole texts text.toList) :
    Config.ofFile reader (.ok (Bytes.ofText text)) = .ok value := by
  rw [ofFile]
  simp only [Bytes.toText?_ofText]
  rw [ofText, h.whole htext]
  rfl

theorem getD_eq_getD_iff {α : Type} {value : Option α} {a b : α} :
    value.getD a = value.getD b ↔ (value = none → a = b) := by
  cases value <;> simp

/-- Laid onto two bounds, a patch gives the same if they differ in nothing that it leaves out. -/
theorem LimitsPatch.onto_eq_onto_iff {patch : LimitsPatch} {limits other : QueueLimits} :
    patch.onto limits = patch.onto other ↔
      (patch.highWater = none → limits.highWater = other.highWater) ∧
      (patch.lowWater = none → limits.lowWater = other.lowWater) ∧
      (patch.maxMessages = none → limits.maxMessages = other.maxMessages) ∧
      (patch.policy = none → limits.policy = other.policy) := by
  simp only [onto, QueueLimits.mk.injEq, getD_eq_getD_iff]

/-- A client keeps all bounds that a file does not name if it names those in which a client differs
from the standard. -/
theorem ClientPatch.read_eq_onto_iff (patch : ClientPatch) :
    patch.read = patch.onto .standard ↔
      (∀ limits ∈ patch.outbound, limits.policy ≠ none) ∧
      ∀ limits ∈ patch.inbound, limits.policy ≠ none ∧ limits.maxMessages ≠ none := by
  have houtbound : ∀ limits : LimitsPatch,
      limits.onto .standard = limits.onto ClientConfig.standard.outbound ↔
        limits.policy ≠ none := by
    intro limits
    rw [LimitsPatch.onto_eq_onto_iff]
    simp [QueueLimits.standard, ClientConfig.standard, Choice.default]
  have hinbound : ∀ limits : LimitsPatch,
      limits.onto .standard = limits.onto ClientConfig.standard.inbound ↔
        limits.policy ≠ none ∧ limits.maxMessages ≠ none := by
    intro limits
    rw [LimitsPatch.onto_eq_onto_iff]
    simp [QueueLimits.standard, ClientConfig.standard, Choice.default, and_comm]
  have hread : patch.read = patch.onto .standard ↔
      patch.read.outbound = (patch.onto .standard).outbound ∧
        patch.read.inbound = (patch.onto .standard).inbound := by
    simp [read, onto]
  rw [hread, read, onto]
  refine and_congr ?_ ?_
  · cases patch.outbound with
    | none => simp
    | some limits => simpa using houtbound limits
  · cases patch.inbound with
    | none => simp
    | some limits => simpa using hinbound limits

/-- The two marks of a queue in a text. -/
theorem LimitsPatch.texts_marks :
    LimitsPatch.texts ⟨some 2048, some 1024, none, none⟩
      "\x7b\"high_water\":2048,\"low_water\":1024\x7d".toList := by
  have hhigh : Json.text "high_water" _ := Json.text_plain (by simp)
  have hlow : Json.text "low_water" _ := Json.text_plain (by simp)
  exact ⟨_, _, .refl _, .inr (.more
    (Json.whole_of_texts (Setting.entry_of_value hhigh ⟨by decide, rfl⟩)) (.last
    (Json.whole_of_texts (Setting.entry_of_value hlow ⟨by decide, rfl⟩)))), by decide +kernel⟩

/-- **What a file does not name stays as it is, but for the bounds of a client.** A file that names
some values of the configuration of a server, in whatever order and however they are spelled, is
read as the configuration that has these values and all others as if nothing had been told, single
bounds of the queue among them. Of a client, the same holds of every value that is no bound of a
queue, and of a queue of which nothing is named; but where a file names some bounds of a queue, the
others become the standard ones. That makes a difference exactly if it leaves out the policy, or the
number of messages that may wait for the display. -/
theorem only_named_change (server : ServerPatch) (client : ClientPatch) (text : String) :
    (Whole server.texts text.toList →
      ServerConfig.ofFile (.ok (Bytes.ofText text)) = .ok (server.onto .standard)) ∧
    (Whole client.texts text.toList →
      ClientConfig.ofFile (.ok (Bytes.ofText text)) = .ok client.read ∧
      (client.read = client.onto .standard ↔
        (∀ limits ∈ client.outbound, limits.policy ≠ none) ∧
        ∀ limits ∈ client.inbound, limits.policy ≠ none ∧ limits.maxMessages ≠ none)) :=
  ⟨fun htext => Config.ofFile_whole server.reads htext,
    fun htext => ⟨Config.ofFile_whole client.reads htext, client.read_eq_onto_iff⟩⟩

/-- A server that is told two marks of its queue and not to greet, and a client that is told its
port and two marks of a queue. -/
theorem only_named_change_marks :
    let server : ServerPatch :=
      ⟨none, none, none, none, none, some ⟨some 2048, some 1024, none, none⟩, some none, none, none⟩
    let client : ClientPatch :=
      ⟨none, some 9000, none, none, none, some ⟨some 2048, some 1024, none, none⟩, none⟩
    let marks := "\x7b\"high_water\":2048,\"low_water\":1024\x7d"
    let serverText := "\x7b\"greeting\":null,\"outbound\":" ++ marks ++ "\x7d"
    let clientText := "\x7b\"port\":9000,\"inbound\":" ++ marks ++ "\x7d"
    Whole server.texts serverText.toList ∧ Whole client.texts clientText.toList ∧
      ServerConfig.ofFile (.ok (Bytes.ofText serverText)) =
        .ok { ServerConfig.standard with
          outbound := ⟨2048, 1024, none, .dropOldest⟩, greeting := none } ∧
      ClientConfig.ofFile (.ok (Bytes.ofText clientText)) =
        .ok { ClientConfig.standard with
          port := 9000, inbound := ⟨2048, 1024, none, .dropOldest⟩ } ∧
      client.read ≠ client.onto .standard := by
  intro server client marks serverText clientText
  have hgreeting : Json.text "greeting" _ := Json.text_plain (by simp)
  have houtbound : Json.text "outbound" _ := Json.text_plain (by simp)
  have hport : Json.text "port" _ := Json.text_plain (by simp)
  have hinbound : Json.text "inbound" _ := Json.text_plain (by simp)
  have hserver : server.texts serverText.toList :=
    ⟨_, _, .swap _ _ _, .inr (.more
      (Json.whole_of_texts (Setting.entry_of_value hgreeting rfl)) (.last
      (Json.whole_of_texts (Setting.entry_of_value houtbound LimitsPatch.texts_marks)))),
      by decide +kernel⟩
  have hclient : client.texts clientText.toList :=
    ⟨_, _, .refl _, .inr (.more
      (Json.whole_of_texts (Setting.entry_of_value hport ⟨by decide, rfl⟩)) (.last
      (Json.whole_of_texts (Setting.entry_of_value hinbound LimitsPatch.texts_marks)))),
      by decide +kernel⟩
  obtain ⟨hread, hnamed⟩ :=
    (only_named_change server client clientText).2 (Json.whole_of_texts hclient)
  refine ⟨Json.whole_of_texts hserver, Json.whole_of_texts hclient,
    (only_named_change server client serverText).1 (Json.whole_of_texts hserver), hread, ?_⟩
  exact fun heq => ((hnamed.1 heq).2 _ rfl).1 rfl

/-- A client that is told two marks of a queue does not keep its policy. -/
theorem policy_not_kept :
    let patch : ClientPatch :=
      ⟨none, none, none, none, some ⟨some 2048, some 1024, none, none⟩, none, none⟩
    let text := "\x7b\"outbound\":\x7b\"high_water\":2048,\"low_water\":1024\x7d\x7d"
    Whole patch.texts text.toList ∧
      ClientConfig.ofFile (.ok (Bytes.ofText text)) =
        .ok { ClientConfig.standard with outbound := ⟨2048, 1024, none, .dropOldest⟩ } ∧
      patch.onto .standard =
        { ClientConfig.standard with outbound := ⟨2048, 1024, none, .blockProducer⟩ } ∧
      ClientConfig.ofFile (.ok (Bytes.ofText text)) ≠ .ok (patch.onto .standard) := by
  intro patch text
  have houtbound : Json.text "outbound" _ := Json.text_plain (by simp)
  have htext : Whole patch.texts text.toList := Json.whole_of_texts
    ⟨_, _, .refl _, .inr (.last (Json.whole_of_texts
      (Setting.entry_of_value houtbound LimitsPatch.texts_marks))), by decide +kernel⟩
  have hread : ClientConfig.ofFile (.ok (Bytes.ofText text)) = .ok patch.read :=
    Config.ofFile_whole patch.reads htext
  refine ⟨htext, hread, rfl, fun heq => ?_⟩
  have hsame := Except.ok.inj (hread.symm.trans heq)
  exact absurd (congrArg (·.outbound.policy) hsame) (by decide)

end ChatRelay
