import TypedClient.Core.Page

/-! The settings of the client: where the server is, who calls it, and what is done to each message. -/

namespace TypedClient.Core

/-- What the module takes from the library and from the other modules. -/
def settingsImports (client : ClientKind) : Lines :=
  let library :=
    match client with
    | .angular => ["import type « HttpRequest, HttpResponse » from '@angular/common/http';"]
    | .axios => ["import type « AxiosRequestConfig, AxiosResponse » from 'axios';"]
    | .fetch | .fastify => []
  library ++ ["import type « ApiRequestOptions » from './ApiRequestOptions';"]

/-- The types of the functions that settings may hold. -/
def settingTypes : Lines := [
    "type Headers = Record<string, string>;",
    "type Middleware<T> = (value: T) => T | Promise<T>;",
    "type Resolver<T> = (options: ApiRequestOptions) => Promise<T>;"]

/-- A list of functions through which messages pass. -/
def interceptors : Lines := [
    "export class Interceptors<T> «",
    "    _fns: Middleware<T>[];",
    "",
    "    constructor() «",
    "        this._fns = [];",
    "    »",
    "",
    "    eject(fn: Middleware<T>) «",
    "        const index = this._fns.indexOf(fn);",
    "        if (index !== -1) «",
    "            this._fns = [...this._fns.slice(0, index), ...this._fns.slice(index + 1)];",
    "        »",
    "    »",
    "",
    "    use(fn: Middleware<T>) «",
    "        this._fns = [...this._fns, fn];",
    "    »",
    "»"]

/-- The types of a request and of a response in the library. -/
def messageTypes : ClientKind → String × String
  | .angular => ("HttpRequest<unknown>", "HttpResponse<unknown>")
  | .axios => ("AxiosRequestConfig", "AxiosResponse")
  | .fetch | .fastify => ("RequestInit", "Response")

/-- The type of the settings. -/
def settingsType (client : ClientKind) : Lines :=
  let (request, response) := messageTypes client
  [
    "export type OpenAPIConfig = «",
    "    BASE: string;",
    "    CREDENTIALS: 'include' | 'omit' | 'same-origin';",
    "    ENCODE_PATH?: ((path: string) => string) | undefined;",
    "    HEADERS?: Headers | Resolver<Headers> | undefined;",
    "    PASSWORD?: string | Resolver<string> | undefined;",
    "    TOKEN?: string | Resolver<string> | undefined;",
    "    USERNAME?: string | Resolver<string> | undefined;",
    "    VERSION: string;",
    "    WITH_CREDENTIALS: boolean;",
    "    interceptors: «",
    "        request: Interceptors<" ++ request ++ ">;",
    "        response: Interceptors<" ++ response ++ ">;",
    "    »;",
    "»;"]

/-- The settings at the start, with the texts of the address and of the version. -/
def initialSettings (server version : String) : String :=
  let others := [
    "    CREDENTIALS: 'include',",
    "    ENCODE_PATH: undefined,",
    "    HEADERS: undefined,",
    "    PASSWORD: undefined,",
    "    TOKEN: undefined,",
    "    USERNAME: undefined,"]
  let rest := [
    "    WITH_CREDENTIALS: false,",
    "    interceptors: «",
    "        request: new Interceptors(),",
    "        response: new Interceptors(),",
    "    »,",
    "»;"]
  code ["export const OpenAPI: OpenAPIConfig = «", "    BASE: "] ++ server ++ ",\n" ++ code others
    ++ "\n    VERSION: " ++ version ++ ",\n" ++ code rest ++ "\n"

/-- The module of the settings. -/
def settings (client : ClientKind) (server version : Value) : Outcome String := do
  let address ← printValue server 0
  let number ← printValue version 0
  let fixed := [settingsImports client, settingTypes, interceptors, settingsType client]
  return page fixed ++ "\n" ++ initialSettings address number

end TypedClient.Core
