import ChatRelay.Proofs.Config.Partial
import ChatRelay.Proofs.Json.Writing

/-!
# Configurations that are written and read back

A configuration is written with all its values, so its text is one of those of the patch that names
them all (`ServerPatch.all`, `ClientPatch.all`). That patch leaves nothing as it was, whatever it is
laid onto: an option that is absent is named as well, by a null. So what is written is read back as
the same configuration (`configs_read_back`), as long as its numbers fit where they are kept.
-/

namespace ChatRelay

open Json (object_writeRecord natural_writeNatural option_writeOption text_writeText list_writeList
  choice_writeChoice)

/-! ## Numbers that fit -/

/-- Sizes fit a machine word. -/
structure QueueLimits.Fits (limits : QueueLimits) : Prop where
  highWater : limits.highWater ≤ maxSize
  lowWater : limits.lowWater ≤ maxSize
  maxMessages : ∀ n ∈ limits.maxMessages, n ≤ maxSize

/-- The port is a port number, and sizes and times fit a machine word. -/
structure ServerConfig.Fits (config : ServerConfig) : Prop where
  port : config.port ≤ maxPort
  maxLineLength : ∀ n ∈ config.maxLineLength, n ≤ maxSize
  outbound : config.outbound.Fits
  drainMillis : config.drainMillis ≤ maxSize
  tickMillis : config.tickMillis ≤ maxSize

/-- The port is a port number, and sizes and times fit a machine word. -/
structure ClientConfig.Fits (config : ClientConfig) : Prop where
  port : config.port ≤ maxPort
  maxLineLength : ∀ n ∈ config.maxLineLength, n ≤ maxSize
  outbound : config.outbound.Fits
  inbound : config.inbound.Fits
  drainMillis : config.drainMillis ≤ maxSize

/-! ## Patches that name everything -/

/-- What a file names that names all bounds. -/
def LimitsPatch.all (limits : QueueLimits) : LimitsPatch where
  highWater := some limits.highWater
  lowWater := some limits.lowWater
  maxMessages := some limits.maxMessages
  policy := some limits.policy

/-- What a file names that names all values. -/
def ServerPatch.all (config : ServerConfig) : ServerPatch where
  bind := some config.bind
  port := some config.port
  backend := some config.backend
  framing := some config.framing
  maxLineLength := some config.maxLineLength
  outbound := some (.all config.outbound)
  greeting := some config.greeting
  drainMillis := some config.drainMillis
  tickMillis := some config.tickMillis

/-- What a file names that names all values. -/
def ClientPatch.all (config : ClientConfig) : ClientPatch where
  host := some config.host
  port := some config.port
  framing := some config.framing
  maxLineLength := some config.maxLineLength
  outbound := some (.all config.outbound)
  inbound := some (.all config.inbound)
  drainMillis := some config.drainMillis

/-- Where everything is named, it does not matter what would hold otherwise. -/
theorem ServerPatch.onto_all (config other : ServerConfig) : (ServerPatch.all config).onto other =
    config :=
  rfl

theorem ClientPatch.read_all (config : ClientConfig) : (ClientPatch.all config).read = config := rfl

/-! ## What is written -/

theorem LimitsPatch.texts_write {limits : QueueLimits} (h : limits.Fits) :
    (LimitsPatch.all limits).texts limits.write :=
  object_writeRecord <|
    .cons ⟨rfl, natural_writeNatural h.highWater⟩ <|
    .cons ⟨rfl, natural_writeNatural h.lowWater⟩ <|
    .cons ⟨rfl, option_writeOption fun n hn => natural_writeNatural (h.maxMessages n hn)⟩ <|
    .cons ⟨rfl, choice_writeChoice limits.policy⟩ .nil

/-- The text of a server names all its values. -/
theorem ServerPatch.texts_write {config : ServerConfig} (h : config.Fits) :
    (ServerPatch.all config).texts config.write :=
  object_writeRecord <|
    .cons ⟨rfl, list_writeList text_writeText config.bind⟩ <|
    .cons ⟨rfl, natural_writeNatural h.port⟩ <|
    .cons ⟨rfl, choice_writeChoice config.backend⟩ <|
    .cons ⟨rfl, choice_writeChoice config.framing⟩ <|
    .cons ⟨rfl, option_writeOption fun n hn => natural_writeNatural (h.maxLineLength n hn)⟩ <|
    .cons ⟨rfl, LimitsPatch.texts_write h.outbound⟩ <|
    .cons ⟨rfl, option_writeOption fun greeting _ => text_writeText greeting⟩ <|
    .cons ⟨rfl, natural_writeNatural h.drainMillis⟩ <|
    .cons ⟨rfl, natural_writeNatural h.tickMillis⟩ .nil

/-- The text of a client names all its values. -/
theorem ClientPatch.texts_write {config : ClientConfig} (h : config.Fits) :
    (ClientPatch.all config).texts config.write :=
  object_writeRecord <|
    .cons ⟨rfl, text_writeText config.host⟩ <|
    .cons ⟨rfl, natural_writeNatural h.port⟩ <|
    .cons ⟨rfl, choice_writeChoice config.framing⟩ <|
    .cons ⟨rfl, option_writeOption fun n hn => natural_writeNatural (h.maxLineLength n hn)⟩ <|
    .cons ⟨rfl, LimitsPatch.texts_write h.outbound⟩ <|
    .cons ⟨rfl, LimitsPatch.texts_write h.inbound⟩ <|
    .cons ⟨rfl, natural_writeNatural h.drainMillis⟩ .nil

/-! ## The way there and back -/

/-- **A configuration is read back as it was written.** Whatever the strings, the lists, the
settings and the options of a configuration are, and whatever numbers it has that fit: the text it
is written as is read without an error, as the same configuration. In particular an option that is
absent stays absent, where a text that does not name it would have left the standard value. -/
theorem configs_read_back (server : ServerConfig) (client : ClientConfig) :
    (server.Fits → ServerConfig.ofFile (.ok (Bytes.ofText server.toText)) = .ok server) ∧
    (client.Fits → ClientConfig.ofFile (.ok (Bytes.ofText client.toText)) = .ok client) := by
  constructor
  case left =>
    intro hfits
    have htext : (ServerPatch.all server).texts server.toText.toList := by
      rw [ServerConfig.toText, String.toList_ofList]
      exact ServerPatch.texts_write hfits
    have hread : ServerConfig.ofFile (.ok (Bytes.ofText server.toText)) =
        .ok ((ServerPatch.all server).onto .standard) :=
      Config.ofFile_whole (ServerPatch.all server).reads (Json.whole_of_texts htext)
    rw [hread, ServerPatch.onto_all]
  case right =>
    intro hfits
    have htext : (ClientPatch.all client).texts client.toText.toList := by
      rw [ClientConfig.toText, String.toList_ofList]
      exact ClientPatch.texts_write hfits
    have hread : ClientConfig.ofFile (.ok (Bytes.ofText client.toText)) =
        .ok (ClientPatch.all client).read :=
      Config.ofFile_whole (ClientPatch.all client).reads (Json.whole_of_texts htext)
    rw [hread, ClientPatch.read_all]

/-- A server and a client with the largest numbers there are, with quotes, controls and letters
beyond ASCII in their texts, and with all their options absent. -/
theorem configs_read_back_extremes :
    let limits : QueueLimits := ⟨maxSize, 0, none, .blockProducer⟩
    let server : ServerConfig :=
      ⟨["", "a\"\\\n\x01\x7f", "é😀"], maxPort, .tasks, .lengthPrefixed, none, limits, none,
        maxSize, 0⟩
    let client : ClientConfig :=
      ⟨"\t\x1f\u2028ß", maxPort, .lengthPrefixed, none, limits,
        ⟨0, maxSize, some maxSize, .disconnect⟩, maxSize⟩
    server.Fits ∧ client.Fits ∧
      ServerConfig.ofFile (.ok (Bytes.ofText server.toText)) = .ok server ∧
      ClientConfig.ofFile (.ok (Bytes.ofText client.toText)) = .ok client := by
  intro limits server client
  have hlimits : limits.Fits := ⟨by decide, by decide, by decide⟩
  have hinbound : client.inbound.Fits := ⟨by decide, by decide, by decide⟩
  have hserver : server.Fits := ⟨by decide, by decide, hlimits, by decide, by decide⟩
  have hclient : client.Fits := ⟨by decide, by decide, hlimits, hinbound, by decide⟩
  exact ⟨hserver, hclient, (configs_read_back server client).1 hserver,
    (configs_read_back server client).2 hclient⟩

end ChatRelay
