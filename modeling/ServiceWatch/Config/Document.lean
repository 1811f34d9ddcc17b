import ServiceWatch.Config
import ServiceWatch.Toml.Standard

/-!
# Configurations as documents

A configuration is read from three top-level entries of a document: its name, whether it takes up
services on changes, and its capacity. All other entries are passed over, missing ones take their
standard value, and the first entry that cannot be converted is reported. Written, it is a record of
these three fields, the capacity set only if there is one. Whether the settings are usable is not
asked in either direction. What reads and writes documents is left open; `read` and `write?` are for
the standard ones.
-/

namespace ServiceWatch

open Toml

namespace Config

variable {ε δ : Type}

/-- Takes one entry of a document in. -/
def takeEntry (decoder : Decoder ε) (c : Config) (entry : String × Value) : Except ε Config :=
  if entry.1 = "name" then (decoder.text entry.2).map fun s => { c with name := s }
  else if entry.1 = "track_on_modified" then
    (decoder.truth entry.2).map fun b => { c with trackOnModified := b }
  else if entry.1 = "max_tracked" then
    (decoder.count entry.2).map fun n => { c with capacity := some n }
  else .ok c

/-- The configuration that a document describes. -/
def ofDocument (decoder : Decoder ε) (d : Document) : Except ε Config :=
  d.foldlM (takeEntry decoder) standard

/-- The configuration that a text describes, by some reader. -/
def decode (decoder : Decoder ε) (text : String) : Except ε Config := do
  ofDocument decoder (← decoder.parse text)

/-- The fields of a configuration in their order. -/
def fields (c : Config) : List (String × Field) :=
  [("name", .text c.name), ("track_on_modified", .truth c.trackOnModified),
    ("max_tracked", .count c.capacity)]

/-- The configuration as a text, by some writer. -/
def encode (encoder : Encoder δ) (c : Config) : Except δ String := encoder.render c.fields

/-- The configuration that a text describes. -/
def read (text : String) : Except ReadFault Config := decode .standard text

/-- The configuration as a text; nothing if its capacity is too large for an integer of TOML. -/
def write? (c : Config) : Option String := (c.encode .standard).toOption

end Config

end ServiceWatch
