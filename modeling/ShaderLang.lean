import ShaderLang.Compile
import ShaderLang.ShaderModule.Parser
import ShaderLang.Source.SelfEquality
import ShaderLang.Proofs.IdScoping
import ShaderLang.Proofs.CompilationOutcome
import ShaderLang.Proofs.MeaningPreservation
import ShaderLang.Proofs.LiteralText
import ShaderLang.Proofs.TextRoundTrip
import ShaderLang.Proofs.FunctionLayout
import ShaderLang.Proofs.BuilderMirrors
import ShaderLang.Proofs.NameOptions
import ShaderLang.Proofs.TableTypes
import ShaderLang.Proofs.EmissionRanges
import ShaderLang.Proofs.CompiledConstants
import ShaderLang.Proofs.FailedRegistration
import ShaderLang.Proofs.RegistryFidelity
import ShaderLang.Proofs.FunctionOrder
import ShaderLang.Proofs.CanonicalIds
import ShaderLang.Proofs.DeclarationUniqueness
import ShaderLang.Proofs.TypeNaming
import ShaderLang.Proofs.PlaceholderFreedom
import ShaderLang.Proofs.AcceptedText
import ShaderLang.Proofs.ReturnKinds
import ShaderLang.Proofs.DeclarationOrder
import ShaderLang.Proofs.BodyIndependence
import ShaderLang.Proofs.RootFaults
import ShaderLang.Proofs.DeadCode
import ShaderLang.Proofs.ShaderFrame
import ShaderLang.Proofs.ScopeRelease
import ShaderLang.Proofs.RegistrationFaults
import ShaderLang.Proofs.ReadFailures
import ShaderLang.Proofs.TextLayout
import ShaderLang.Proofs.UnnamedTypes
import ShaderLang.Proofs.NameRecords
import ShaderLang.Proofs.OverloadSlots
