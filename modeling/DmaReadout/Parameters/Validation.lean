import DmaReadout.Error
import DmaReadout.Parameters.Basic

/-!
# Validation of parameters
-/

namespace DmaReadout.Parameters

/-- The first number that the family does not address, if there is one. -/
def unknownLink? (family : CardFamily) (ids : List LinkId) : Option LinkId :=
  ids.find? fun id => id.val ≥ family.maxLinks

/-- The links to enable, in ascending order. A single-link card has only the first; so has
a card of which no link was asked for. -/
def enabledLinks (parameters : Parameters) : Except ReadoutError (List LinkId) :=
  let family := parameters.family
  if !family.isMultiLink || parameters.links.ids.isEmpty then .ok [⟨0⟩]
  else
    match unknownLink? family parameters.links.ids with
    | some id => .error (.invalidLinkId id.val (family.maxLinks - 1))
    | none => .ok parameters.links.ids

/-- Checks everything that does not depend on the state of the card, and gives the links
to enable. -/
def validate (parameters : Parameters) : Except ReadoutError (List LinkId) :=
  if parameters.channel > parameters.family.lastChannel then
    .error (.invalidChannel parameters.channel parameters.family)
  else if parameters.pageSize = 0 then
    .error (.invalidParameter .zeroPageSize)
  else if parameters.linkCapacity = 0 then
    .error (.invalidParameter .zeroLinkCapacity)
  else if parameters.generatorEnabled && parameters.dataSize = 0 then
    .error (.invalidParameter .zeroDataSize)
  else
    match parameters.enabledLinks with
    | .error e => .error e
    | .ok links =>
      if parameters.readyCapacity links.length = 0 then
        .error (.invalidParameter .zeroReadyCapacity)
      else .ok links

end DmaReadout.Parameters
