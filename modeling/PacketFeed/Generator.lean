import PacketFeed.Filler
import PacketFeed.Log
import PacketFeed.Source.Keystream
import PacketFeed.Status

/-!
# Generators

A generator owns a source and a counter, the size of its next batch.  A fetch
fills that many slots of a batch and advances the counter by a fixed stride,
modulo the batch capacity.

Any byte may be the first counter; only a fetch checks it.  A fetch that fails
on the check changes nothing.  A fetch that fails because the source has no
acceptable word left keeps the packets it has already written.
-/

namespace PacketFeed

/-- How far the counter moves after each fetch. -/
def stride : Nat := 13

/-- The first counter of a generator for which none was chosen. -/
def legacyInitial : UInt8 := 1

/-- The seed of a generator for which none was chosen. -/
def defaultSeed : UInt64 := 0x1a92fab2f5f30cdb

/-- The size of the next batch and the source of its packets. -/
structure Generator (σ : Type) where
  pending : UInt8
  source : σ
deriving DecidableEq

namespace Generator

/-! ## Seeded generators -/

/-- The choices that make a seeded generator. -/
structure Config where
  initial : UInt8 := legacyInitial
  seed : UInt64 := defaultSeed
deriving DecidableEq

/-- The text of the choices. -/
def Config.inspect (config : Config) : String :=
  Text.record "GeneratorConfig"
    [Text.labelled "initial" (toString config.initial),
      Text.labelled "seed" (toString config.seed)]

/-- The generator that the choices describe. -/
def ofConfig (config : Config) : Generator Keystream where
  pending := config.initial
  source := Keystream.ofSeed config.seed

/-- The generator with a given first counter and the usual seed. -/
def ofInitial (initial : UInt8) : Generator Keystream :=
  ofConfig { initial }

/-- The generator with the usual first counter and the usual seed. -/
def standard : Generator Keystream :=
  ofInitial legacyInitial

/-! ## Fetching -/

/-- What a fetch answers and leaves behind. -/
structure Fetch (σ : Type) where
  outcome : Except Fault Status
  generator : Generator σ
  batch : Batch
  events : List Log.Event

/-- The counter after a fetch of `size` packets. -/
def advance (size : UInt8) : UInt8 :=
  UInt8.ofNat ((size.toNat + stride) % batchCapacity)

/-- Fill the next slots of `batch` and advance the counter. -/
def fetch {σ : Type} [Source σ] (generator : Generator σ) (batch : Batch) :
    Fetch σ :=
  let size := generator.pending
  if size.toNat ≤ batchCapacity then
    let (fillers, source) := Filler.drawMany size.toNat generator.source
    let written := batch.write fillers
    if fillers.length = size.toNat then
      let next := advance size
      { outcome := .ok .success
        generator := ⟨next, source⟩
        batch := { written with count := size }
        events := [.fetched size next] }
    else
      { outcome := .error .exhausted
        generator := ⟨size, source⟩
        batch := written
        events := [] }
  else
    { outcome := .error (.overCapacity size)
      generator
      batch
      events := [] }

/-! ## Fetching repeatedly -/

/-- What successive fetches into one buffer leave behind. -/
structure Series (σ : Type) where
  /-- The buffer after each fetch that succeeded. -/
  batches : List Batch
  /-- The fault that stopped the series early, if one did. -/
  fault : Option Fault
  generator : Generator σ
  batch : Batch
  events : List Log.Event

/-- Fetch `times` times into `batch`, or until a fetch fails. -/
def fetchMany {σ : Type} [Source σ] (generator : Generator σ)
    (batch : Batch) : (times : Nat) → Series σ
  | 0 =>
      { batches := []
        fault := none
        generator
        batch
        events := [] }
  | times + 1 =>
      let result := generator.fetch batch
      match result.outcome with
      | .error fault =>
          { batches := []
            fault := some fault
            generator := result.generator
            batch := result.batch
            events := result.events }
      | .ok _ =>
          let rest := result.generator.fetchMany result.batch times
          { rest with
            batches := result.batch :: rest.batches
            events := result.events ++ rest.events }

end Generator

end PacketFeed
