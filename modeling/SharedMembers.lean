import SharedMembers.Expansion.View
import SharedMembers.Proofs.Signatures
import SharedMembers.Proofs.TypeSets
import SharedMembers.Sample.Records
import SharedMembers.Sample.Shapes
import SharedMembers.Sample.Values
import SharedMembers.Proofs.Unification
import SharedMembers.Proofs.Forwarding
import SharedMembers.Proofs.Extension
import SharedMembers.Proofs.Worklist
import SharedMembers.Proofs.Conversion
import SharedMembers.Proofs.Reordering
import SharedMembers.Proofs.VariantOrder
import SharedMembers.Proofs.ReorderedModules
import SharedMembers.Proofs.FreshNames
import SharedMembers.Proofs.Registration
import SharedMembers.Proofs.SharedSets
import SharedMembers.Proofs.Samples
import SharedMembers.Proofs.Accounting
import SharedMembers.Proofs.Identifiers
import SharedMembers.Proofs.GeneratedNames
import SharedMembers.Proofs.Contributions
import SharedMembers.Proofs.Receivers
import SharedMembers.Proofs.NestedNames
import SharedMembers.Proofs.Numbering
import SharedMembers.Proofs.StoreCode
import SharedMembers.Proofs.FaithfulStores
import SharedMembers.Proofs.Places
import SharedMembers.Proofs.PlacelessRuns
import SharedMembers.Proofs.PlacelessText
import SharedMembers.Proofs.PlacelessItems
import SharedMembers.Proofs.HiddenMembers
import SharedMembers.Proofs.HiddenModules
import SharedMembers.Proofs.ReturnTypes
import SharedMembers.Proofs.KeptItems
import SharedMembers.Proofs.Visibilities
import SharedMembers.Proofs.NamePriority
import SharedMembers.Proofs.Precedence
import SharedMembers.Proofs.Descriptions
import SharedMembers.Proofs.Arity
import SharedMembers.Proofs.ArgumentPlaces
import SharedMembers.Proofs.ParameterNames
import SharedMembers.Proofs.Cloning
import SharedMembers.Proofs.Spellings
import SharedMembers.Proofs.FirstNames
import SharedMembers.Proofs.SelfNames
import SharedMembers.Proofs.FieldUses
import SharedMembers.Proofs.MethodNames
import SharedMembers.Proofs.Titles
import SharedMembers.Proofs.JoinedDirectives
import SharedMembers.Proofs.Picking
import SharedMembers.Proofs.Rereading
