import EmitBridge.FilePath.Win32
import EmitBridge.Json.Basic
import EmitBridge.Url.Basic

/-! The records that an emit call is described with. Records that may hold arbitrary values are
families over the type of values. -/

namespace EmitBridge

inductive CacheSetting
  | only
  | use
  | reload
deriving DecidableEq, Repr, Inhabited

namespace CacheSetting

def all : List CacheSetting := [only, use, reload]

def text : CacheSetting → String
  | only => "only"
  | use => "use"
  | reload => "reload"

def name : CacheSetting → String
  | only => "ONLY"
  | use => "USE"
  | reload => "RELOAD"

def ofText? (t : Text) : Option CacheSetting := all.find? fun s => Text.ofString s.text == t

end CacheSetting

inductive BundleType
  | module
  | classic
deriving DecidableEq, Repr, Inhabited

namespace BundleType

def all : List BundleType := [module, classic]

def text : BundleType → String
  | module => "module"
  | classic => "classic"

def name : BundleType → String
  | module => "MODULE"
  | classic => "CLASSIC"

def ofText? (t : Text) : Option BundleType := all.find? fun s => Text.ofString s.text == t

end BundleType

abbrev Section := Entries Text

abbrev Scopes := Entries Section

inductive MapBase
  | text (t : Text)
  | path (p : PosixPath)
  | url (u : Url)
deriving DecidableEq, Repr

structure ImportMap where
  baseUrl : Option MapBase
  imports : Option Section
  scopes : Option Scopes
deriving DecidableEq, Repr

inductive ImportMapSource
  | inline (m : ImportMap)
  | text (t : Text)
  | path (p : PosixPath)
  | url (u : Url)
deriving DecidableEq, Repr

structure SerializedImportMap where
  baseUrl : Text
  jsonString : Text
deriving DecidableEq, Repr

structure ImportMapDocument where
  imports : Option Section
  scopes : Option Scopes
deriving DecidableEq, Repr

structure CompilerOptions (α : Type) where
  checkJs : Option Bool
  emitDecoratorMetadata : Option Bool
  importsNotUsedAsValues : Option Text
  inlineSourceMap : Option Bool
  inlineSources : Option Bool
  jsx : Option Text
  jsxFactory : Option Text
  jsxFragmentFactory : Option Text
  jsxImportSource : Option Text
  sourceMap : Option Bool
  extras : List (Text × α)

structure EmitOptions (α : Type) where
  importMap : Option ImportMapSource
  imports : Option Section
  scopes : Option Scopes
  compilerOptions : Option (CompilerOptions α)
  load : Option α
  allowRemote : Option Bool
  cacheRoot : Option PosixPath
  cacheSetting : Option CacheSetting

structure BundleOptions (α : Type) where
  common : EmitOptions α
  type : BundleType
  minify : Bool

namespace EmitOptions

variable {α : Type}

def hasInlineImports (o : EmitOptions α) : Bool := o.imports.isSome || o.scopes.isSome

def hasImportMap (o : EmitOptions α) : Bool := o.importMap.isSome || o.hasInlineImports

end EmitOptions

structure ConfigFile (α : Type) where
  compilerOptions : Option (List (Text × α))
  imports : Option Section
  scopes : Option Scopes
  importMap : Option Text

structure BundleEmit where
  code : Text
  map : Option Text
deriving DecidableEq, Repr

inductive Content
  | bytes (bs : Bytes)
  | text (t : Text)
deriving DecidableEq, Repr

namespace Content

def toBytes : Content → Except Utf8.EncodeError Bytes
  | bytes bs => .ok bs
  | text t => Utf8.encode t

def toText : Content → Except Utf8.DecodeError Text
  | bytes bs => Text.ofChars <$> Utf8.decode bs
  | text t => .ok t

end Content

structure ModuleResponse where
  specifier : String
  headers : Option Section
  content : Content
deriving DecidableEq, Repr

inductive LoadResponse
  | module (m : ModuleResponse)
  | external (specifier : String)
  | builtIn (specifier : String)
deriving DecidableEq, Repr

namespace LoadResponse

def kind : LoadResponse → String
  | module _ => "module"
  | external _ => "external"
  | builtIn _ => "builtIn"

def specifier : LoadResponse → String
  | module m => m.specifier
  | external s => s
  | builtIn s => s

end LoadResponse

structure LoadRequest (α : Type) where
  specifier : String
  isDynamic : α
  cacheSetting : Option CacheSetting

inductive CacheRoot
  | path (p : PosixPath)
  | other (typeName : String)

structure FetchConfig where
  cacheRoot : Option CacheRoot
  cacheSetting : CacheSetting
  allowRemote : Bool
  timeout : Float

end EmitBridge
