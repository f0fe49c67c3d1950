import ConnectClients.Identifier
import ConnectClients.Service

/-!
# Client modules

The text of the client module of one service, of the index that re-exports all clients, and of the
module that gives every client its transport.
-/

namespace ConnectClients

/-- A generated client, as the services index lists it. -/
structure ClientEntry where
  name : String
  camelName : String
  serviceName : String := ""
  deriving DecidableEq, Repr

/-- The entry of the client of a service. -/
def ClientEntry.ofService (serviceName : String) : ClientEntry :=
  let name := Identifier.clientName serviceName
  ⟨name, Identifier.lowerFirst name, serviceName⟩

/-- The file that holds a client, in the services directory. -/
def ClientEntry.fileName (entry : ClientEntry) : String :=
  entry.camelName ++ ".client.ts"

namespace ClientModule

/-- Every generated file says so. -/
def doNotEdit : String := "// DO NOT EDIT: This file is automatically generated"

/-! ## Imports of messages -/

/-- The types that the methods name, in the order of first use. -/
def namedTypes (service : Service) : List String :=
  service.methods.flatMap fun m => [m.inputType, m.outputType]

/-- The message types a client module needs: each once, without the service's own name. -/
def messageTypes (service : Service) : List String :=
  Assoc.distinct ((namedTypes service).filter fun t => !t.isEmpty && t != service.serviceName)

/-- The module a message type is imported from: where the service's module has it from, else the
service's module itself. -/
def origin (service : Service) (type : String) : String :=
  match service.imports.lookup type with
  | some path => if path.isEmpty then service.importPath else path
  | none => service.importPath

/-- What is imported from each path: the service first, then its messages. -/
def importedSymbols (service : Service) : List (String × List String) :=
  (messageTypes service).foldl (fun d t => Assoc.append (origin service t) ("type " ++ t) d)
    [(service.importPath, [service.serviceName])]

/-- Packages start with this character; any other path is one of the generated tree. -/
def packageMark : Char := '@'

def specifierOf (path : String) : String :=
  if path.toList.head? == some packageMark then path else "../generated/" ++ path

/-- An import statement. -/
def importLine (symbols : List String) (specifier : String) : String :=
  "import \x7b " ++ ", ".intercalate symbols ++ " \x7d from '" ++ specifier ++ "'"

def importLines (service : Service) : List String :=
  (importedSymbols service).map fun (path, symbols) => importLine symbols (specifierOf path)

/-! ## The module of one client -/

/-- Whether a module name is given that is not empty. -/
def isNested (moduleName : Option String) : Bool :=
  moduleName.any fun name => !name.isEmpty

/-- Where a client finds the transport: one directory further up if it belongs to a module. -/
def transportSpecifier (moduleName : Option String) : String :=
  if isNested moduleName then "../../connect-client" else "../connect-client"

def declarations (name : String) (service : Service) : List String :=
  ["",
   "/**",
   " * " ++ name ++ " Service Client",
   " * Created using Connect-RPC's createClient with configured transport.",
   " * Type inference is automatically derived from " ++ service.serviceName ++ " definition.",
   " */",
   "export type " ++ name ++ "Client = Client<typeof " ++ service.serviceName ++ ">",
   "",
   "export const " ++ Identifier.lowerFirst name ++ "Client: " ++ name ++ "Client = createClient(" ++
     service.serviceName ++ ", transport)"]

/-- The line that exports the message types, if there are any. -/
def typeExports (types : List String) : List String :=
  if types.isEmpty then []
  else ["", "export type \x7b " ++ ", ".intercalate types ++ " \x7d"]

/-- The text of the client module of a service. -/
def render (name : String) (service : Service) (moduleName : Option String) : String :=
  Text.unlines <|
    ["// " ++ name ++ " Service Client - Auto-generated",
     doNotEdit,
     "// Source: " ++ service.serviceName ++ " from " ++ service.importPath,
     "",
     "import \x7b createClient, type Client \x7d from '@connectrpc/connect'"] ++
    importLines service ++
    [importLine ["transport"] (transportSpecifier moduleName)] ++
    declarations name service ++
    typeExports (messageTypes service)

/-! ## The services index -/

def exportLine (entry : ClientEntry) : String :=
  "export \x7b " ++ entry.camelName ++ "Client, type " ++ entry.name ++ "Client \x7d from './" ++
    entry.camelName ++ ".client'"

/-- The text of the index of all clients. -/
def renderIndex (entries : List ClientEntry) (moduleName : Option String) : String :=
  Text.unlines <|
    ["// Services Index - Auto-generated exports", doNotEdit] ++
    (match moduleName with
      | some name => if name.isEmpty then [] else ["// Module: " ++ name]
      | none => []) ++
    [""] ++
    (if entries.isEmpty then ["export \x7b\x7d"] else entries.map exportLine) ++
    ["",
     "// Export types namespace for IDE auto-completion",
     "// Usage: pimService.types.ProductFilter, pimService.types.Product, etc.",
     "export * as types from '../types'"]

/-! ## The transport -/

/-- The text of the module that all clients share. -/
def transport : String :=
  Text.unlines
    ["/**",
     " * API Client configuration for Connect-RPC",
     " * Using @theplant/fetch-middleware for advanced request/response handling",
     " */",
     "import type \x7b Interceptor \x7d from '@connectrpc/connect'",
     "import \x7b createConnectTransport \x7d from '@connectrpc/connect-web'",
     "import \x7b",
     "  createFetchClient,",
     "  formatProtoErrorMiddleware,",
     "\x7d from '@theplant/fetch-middleware'",
     "",
     "// Use binary format (protobuf) instead of JSON",
     "const useBinaryFormat = false",
     "",
     "// API base URL from environment",
     "const API_BASE_URL =",
     "  (import.meta.env.VITE_API_BASE_URL as string | undefined) || ''",
     "",
     "export const connectFetchClient = createFetchClient(\x7b",
     "  fetchInit: \x7b",
     "    credentials: 'include',",
     "    headers: \x7b",
     "      Accept: useBinaryFormat ? 'application/proto' : 'application/json',",
     "      'X-Ensure-Connect-Error': 'true',",
     "    \x7d,",
     "  \x7d,",
     "  middlewares: [formatProtoErrorMiddleware()],",
     "\x7d)",
     "",
     "const errorInterceptor: Interceptor = (next) => async (req) => \x7b",
     "  try \x7b",
     "    return await next(req)",
     "  \x7d catch (err) \x7b",
     "    console.error('[Connect-RPC Error]', err)",
     "    throw err",
     "  \x7d",
     "\x7d",
     "",
     "export const transport = createConnectTransport(\x7b",
     "  baseUrl: API_BASE_URL,",
     "  fetch: connectFetchClient,",
     "  useBinaryFormat,",
     "  interceptors: [errorInterceptor],",
     "\x7d)"]

end ClientModule

end ConnectClients
