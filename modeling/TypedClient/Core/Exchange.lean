import TypedClient.Core.Page

/-! What a call sends and what it gets back: the options of a request, its result and its failure. -/

namespace TypedClient.Core

/-- What a request consists of. -/
def requestOptions : Lines := [
    "export type ApiRequestOptions = «",
    "    readonly method: 'GET' | 'PUT' | 'POST' | 'DELETE' | 'OPTIONS' | 'HEAD' | 'PATCH' | 'TRACE';",
    "    readonly url: string;",
    "    readonly path?: Record<string, unknown>;",
    "    readonly cookies?: Record<string, unknown>;",
    "    readonly headers?: Record<string, unknown>;",
    "    readonly query?: Record<string, unknown>;",
    "    readonly formData?: Record<string, unknown>;",
    "    readonly body?: any;",
    "    readonly mediaType?: string;",
    "    readonly responseHeader?: string;",
    "    readonly errors?: Record<number, string>;",
    "»;"]

/-- What a response comes to. -/
def result : Lines := [
    "export type ApiResult<TData = any> = «",
    "    readonly body: TData;",
    "    readonly ok: boolean;",
    "    readonly status: number;",
    "    readonly statusText: string;",
    "    readonly url: string;",
    "»;"]

/-- What the error is made of. -/
def failureImports : Lines := [
    "import type « ApiRequestOptions » from './ApiRequestOptions';",
    "import type « ApiResult » from './ApiResult';"]

/-- The error of a call whose response is no success. -/
def failure : Lines := [
    "export class ApiError extends Error «",
    "    public readonly url: string;",
    "    public readonly status: number;",
    "    public readonly statusText: string;",
    "    public readonly body: unknown;",
    "    public readonly request: ApiRequestOptions;",
    "",
    "    constructor(request: ApiRequestOptions, response: ApiResult, message: string) «",
    "        super(message);",
    "",
    "        this.name = 'ApiError';",
    "        this.url = response.url;",
    "        this.status = response.status;",
    "        this.statusText = response.statusText;",
    "        this.body = response.body;",
    "        this.request = request;",
    "    »",
    "»"]

end TypedClient.Core
