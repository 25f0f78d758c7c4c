import TypedClient.Core.Headers
import TypedClient.Core.Payload
import TypedClient.Core.Transfer

/-! The function that makes a request. -/

namespace TypedClient.Core

/-- What the module takes from the library. -/
def libraryImports : ClientKind → Lines
  | .angular => [
    "import « HttpClient, HttpHeaders » from '@angular/common/http';",
    "import type « HttpResponse, HttpErrorResponse » from '@angular/common/http';",
    "import « forkJoin, of, throwError » from 'rxjs';",
    "import « catchError, map, switchMap » from 'rxjs/operators';",
    "import type « Observable » from 'rxjs';"]
  | .axios => [
    "import axios from 'axios';",
    "import type « AxiosError, AxiosRequestConfig, AxiosResponse, AxiosInstance » from 'axios';"]
  | .fetch | .fastify => []

/-- What the module takes from the other ones. -/
def ownImports (client : ClientKind) : Lines := [
    "import « ApiError » from './ApiError';",
    "import type « ApiRequestOptions » from './ApiRequestOptions';",
    "import type « ApiResult » from './ApiResult';"]
  ++ (if client != .angular then [
      "import « CancelablePromise » from './CancelablePromise';",
      "import type « OnCancel » from './CancelablePromise';"]
    else [])
  ++ [
    "import type « OpenAPIConfig » from './OpenAPI';"]

/-- The request as an observable. -/
def observableRequest : Lines := [
    "/**",
    " * Request method",
    " * @param config The OpenAPI configuration object",
    " * @param http The Angular HTTP client",
    " * @param options The request options from the service",
    " * @returns Observable<T>",
    " * @throws ApiError",
    " */",
    "export const request = <T>(config: OpenAPIConfig, http: HttpClient, options: ApiRequestOptions): Observable<T> => «",
    "    const url = getUrl(config, options);",
    "    const formData = getFormData(options);",
    "    const body = getRequestBody(options);",
    "",
    "    return getHeaders(config, options).pipe(",
    "        switchMap(headers => «",
    "            return sendRequest<T>(config, options, http, url, body, formData, headers);",
    "        »),",
    "        switchMap(async response => «",
    "            for (const fn of config.interceptors.response._fns) «",
    "                response = await fn(response);",
    "            »",
    "            const responseBody = getResponseBody(response);",
    "            const responseHeader = getResponseHeader(response, options.responseHeader);",
    "            return «",
    "                ok: response.ok,",
    "                url,",
    "                status: response.status,",
    "                statusText: response.statusText,",
    "                body: responseHeader ?? responseBody,",
    "            » as ApiResult;",
    "        »),",
    "        catchError((error: HttpErrorResponse) => «",
    "            if (!error.status) «",
    "                return throwError(() => error);",
    "            »",
    "            return of(«",
    "                ok: error.ok,",
    "                url,",
    "                status: error.status,",
    "                statusText: error.statusText,",
    "                body: error.error ?? error.statusText,",
    "            » as ApiResult);",
    "        »),",
    "        map(result => «",
    "            catchErrorCodes(options, result);",
    "            return result.body as T;",
    "        »),",
    "        catchError((error: ApiError) => «",
    "            return throwError(() => error);",
    "        »),",
    "    );",
    "»;"]

/-- The request as a promise. -/
def promisedRequest (client : ClientKind) : Lines :=
  let instanceParameter := if client = .axios then ", axiosClient: AxiosInstance = axios" else ""
  [
    "/**",
    " * Request method",
    " * @param config The OpenAPI configuration object",
    " * @param options The request options from the service"]
  ++ (if client = .axios then [" * @param axiosClient The axios client instance to use"] else [])
  ++ [
    " * @returns CancelablePromise<T>",
    " * @throws ApiError",
    " */",
    "export const request = <T>(config: OpenAPIConfig, options: ApiRequestOptions" ++ instanceParameter ++ "): CancelablePromise<T> => «",
    "    return new CancelablePromise(async (resolve, reject, onCancel) => «",
    "        try «",
    "            const url = getUrl(config, options);",
    "            const formData = getFormData(options);",
    "            const body = getRequestBody(options);"]
  ++ (if client = .axios then [
      "            const headers = await getHeaders(config, options, formData);"]
    else [
      "            const headers = await getHeaders(config, options);"])
  ++ [
    "",
    "            if (!onCancel.isCancelled) «"]
  ++ (if client = .axios then [
      "                let response = await sendRequest<T>(config, options, url, body, formData, headers, onCancel, axiosClient);"]
    else [
      "                let response = await sendRequest(config, options, url, body, formData, headers, onCancel);"])
  ++ [
    "",
    "                for (const fn of config.interceptors.response._fns) «",
    "                    response = await fn(response);",
    "                »",
    ""]
  ++ (if client = .axios then [
      "                const responseBody = getResponseBody(response);"]
    else [
      "                const responseBody = await getResponseBody(response);"])
  ++ [
    "                const responseHeader = getResponseHeader(response, options.responseHeader);",
    "",
    "                const result: ApiResult = «",
    "                    url,"]
  ++ (if client = .axios then [
      "                    ok: response.status >= 200 && response.status < 300,"]
    else [
      "                    ok: response.ok,"])
  ++ [
    "                    status: response.status,",
    "                    statusText: response.statusText,",
    "                    body: responseHeader ?? responseBody,",
    "                »;",
    "",
    "                catchErrorCodes(options, result);",
    "",
    "                resolve(result.body);",
    "            »",
    "        » catch (error) «",
    "            reject(error);",
    "        »",
    "    »);",
    "»;"]

/-- The module of the request function. -/
def request (client : ClientKind) : String :=
  let imports := libraryImports client ++ [""] ++ ownImports client
  let call := if client = .angular then observableRequest else promisedRequest client
  page [imports, valueTests, queryString, address, formData, resolver, headers client,
    requestBody client, send client, readers client, statusErrors, call]

end TypedClient.Core
