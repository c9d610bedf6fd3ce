import Facade.Config.Session
import Facade.Log.Session
import Facade.Scene.CacheSession
import Facade.Scene.CompileSession
import Facade.Scene.ContextSession
import Facade.Scene.PlanSession
import Facade.Scene.ResolverSession
import Facade.Scene.Session
import Facade.Wrapper.Callable
import Facade.Wrapper.Type
import Facade.Proofs.Callables
import Facade.Proofs.Compilation
import Facade.Proofs.ExtraNames
import Facade.Proofs.LaterClasses
import Facade.Proofs.CallableClass
import Facade.Proofs.Respelling
import Facade.Proofs.Importing
import Facade.Proofs.CacheHistories
import Facade.Proofs.PlanHistories
import Facade.Proofs.Coverage
import Facade.Proofs.Sharing
import Facade.Proofs.Refusals
import Facade.Proofs.ResolverHistories
import Facade.Proofs.Closure
import Facade.Proofs.Embedding
import Facade.Proofs.HeldSource
import Facade.Proofs.Naming
import Facade.Proofs.Reloading
import Facade.Proofs.HookedClass
import Facade.Proofs.AnnotationTexts
import Facade.Proofs.ParameterTexts
import Facade.Proofs.Rereading
import Facade.Proofs.MethodTexts
import Facade.Proofs.GeneratedTexts
import Facade.Proofs.Globs
import Facade.Proofs.Discovery
import Facade.Proofs.Merging
import Facade.Proofs.Finding
import Facade.Proofs.Splicing
import Facade.Proofs.Blocks
import Facade.Proofs.Referencing
import Facade.Proofs.ExportNames
import Facade.Proofs.LogFields
