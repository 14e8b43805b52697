import JarAtlas.Console.Memory
import JarAtlas.Main
import JarAtlas.Proofs.ClassFile.Assembly
import JarAtlas.Proofs.Extraction.Attribution
import JarAtlas.Proofs.Extraction.Reuse
import JarAtlas.Proofs.Extraction.Routes
import JarAtlas.Proofs.Inventory.Enclosing
import JarAtlas.Proofs.Inventory.Supertypes
import JarAtlas.Proofs.Store.Refinement
import JarAtlas.Proofs.Survey.Skipping
import JarAtlas.Proofs.Survey.Tolerance
import JarAtlas.Proofs.Inventory.Reordering
import JarAtlas.Proofs.Model.RoundTrip
import JarAtlas.Proofs.Text.Utf8Order
import JarAtlas.Proofs.Store.Agreement
import JarAtlas.Proofs.Survey.Identity
import JarAtlas.Proofs.Console.Following
import JarAtlas.Proofs.Console.Values
import JarAtlas.Proofs.Console.Growth
import JarAtlas.Proofs.Console.Attempts
import JarAtlas.Proofs.Console.Opening
import JarAtlas.Proofs.Console.Commands
import JarAtlas.Proofs.Console.Sessions
import JarAtlas.Proofs.Name.Covering
import JarAtlas.Proofs.Extraction.Narrowing
import JarAtlas.Proofs.Survey.Counting
import JarAtlas.Proofs.Annotation.ValueElement
import JarAtlas.Proofs.Extraction.Containment
import JarAtlas.Proofs.Pom.ForeignElements
import JarAtlas.Proofs.Extraction.MarkOrder
import JarAtlas.Proofs.Annotation.Flattening
import JarAtlas.Proofs.Name.Recovery
import JarAtlas.Proofs.Name.FieldTypes
import JarAtlas.Proofs.ClassFile.ElementTexts
import JarAtlas.Proofs.Name.Membership
import JarAtlas.Proofs.Name.Normalization
import JarAtlas.Proofs.Survey.Projects
