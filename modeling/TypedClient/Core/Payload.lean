import TypedClient.Core.Page

/-! What a request carries: its address, its body and its form. -/

namespace TypedClient.Core

/-- Small tests of what a value is. -/
def valueTests : Lines := [
    "export const isString = (value: unknown): value is string => «",
    "    return typeof value === 'string';",
    "»;",
    "",
    "export const isStringWithValue = (value: unknown): value is string => «",
    "    return isString(value) && value !== '';",
    "»;",
    "",
    "export const isBlob = (value: any): value is Blob => «",
    "    return value instanceof Blob;",
    "»;",
    "",
    "export const isFormData = (value: unknown): value is FormData => «",
    "    return value instanceof FormData;",
    "»;",
    "",
    "export const base64 = (str: string): string => «",
    "    try «",
    "        return btoa(str);",
    "    » catch (err) «",
    "        // @ts-ignore",
    "        return Buffer.from(str).toString('base64');",
    "    »",
    "»;"]

/-- How a query is written. -/
def queryString : Lines := [
    "export const getQueryString = (params: Record<string, unknown>): string => «",
    "    const qs: string[] = [];",
    "",
    "    const append = (key: string, value: unknown) => «",
    "        qs.push(`$«encodeURIComponent(key)»=$«encodeURIComponent(String(value))»`);",
    "    »;",
    "",
    "    const encodePair = (key: string, value: unknown) => «",
    "        if (value === undefined || value === null) «",
    "            return;",
    "        »",
    "",
    "        if (value instanceof Date) «",
    "            append(key, value.toISOString());",
    "        » else if (Array.isArray(value)) «",
    "            value.forEach(v => encodePair(key, v));",
    "        » else if (typeof value === 'object') «",
    "            Object.entries(value).forEach(([k, v]) => encodePair(`$«key»[$«k»]`, v));",
    "        » else «",
    "            append(key, value);",
    "        »",
    "    »;",
    "",
    "    Object.entries(params).forEach(([key, value]) => encodePair(key, value));",
    "",
    "    return qs.length ? `?$«qs.join('&')»` : '';",
    "»;"]

/-- How an address is put together. -/
def address : Lines := [
    "const getUrl = (config: OpenAPIConfig, options: ApiRequestOptions): string => «",
    "    const encoder = config.ENCODE_PATH || encodeURI;",
    "",
    "    const path = options.url",
    "        .replace('«api-version»', config.VERSION)",
    "        .replace(/«(.*?)»/g, (substring: string, group: string) => «",
    "            if (options.path?.hasOwnProperty(group)) «",
    "                return encoder(String(options.path[group]));",
    "            »",
    "            return substring;",
    "        »);",
    "",
    "    const url = config.BASE + path;",
    "    return options.query ? url + getQueryString(options.query) : url;",
    "»;"]

/-- How a form is filled in. -/
def formData : Lines := [
    "export const getFormData = (options: ApiRequestOptions): FormData | undefined => «",
    "    if (options.formData) «",
    "        const formData = new FormData();",
    "",
    "        const process = (key: string, value: unknown) => «",
    "            if (isString(value) || isBlob(value)) «",
    "                formData.append(key, value);",
    "            » else «",
    "                formData.append(key, JSON.stringify(value));",
    "            »",
    "        »;",
    "",
    "        Object.entries(options.formData)",
    "            .filter(([, value]) => value !== undefined && value !== null)",
    "            .forEach(([key, value]) => «",
    "                if (Array.isArray(value)) «",
    "                    value.forEach(v => process(key, v));",
    "                » else «",
    "                    process(key, value);",
    "                »",
    "            »);",
    "",
    "        return formData;",
    "    »",
    "    return undefined;",
    "»;"]

/-- How a setting is looked up that may depend on the request. -/
def resolver : Lines := [
    "type Resolver<T> = (options: ApiRequestOptions) => Promise<T>;",
    "",
    "export const resolve = async <T>(options: ApiRequestOptions, resolver?: T | Resolver<T>): Promise<T | undefined> => «",
    "    if (typeof resolver === 'function') «",
    "        return (resolver as Resolver<T>)(options);",
    "    »",
    "    return resolver;",
    "»;"]

/-- How a body is written. -/
def requestBody (client : ClientKind) : Lines := [
    "export const getRequestBody = (options: ApiRequestOptions): unknown => «",
    "    if (options.body !== undefined) «"]
  ++ (if client = .axios then [
      "        return options.body;"]
    else [
      "        if (options.mediaType?.includes('application/json') || options.mediaType?.includes('+json')) «",
      "            return JSON.stringify(options.body);",
      "        » else if (isString(options.body) || isBlob(options.body) || isFormData(options.body)) «",
      "            return options.body;",
      "        » else «",
      "            return JSON.stringify(options.body);",
      "        »"])
  ++ [
    "    »",
    "    return undefined;",
    "»;"]

end TypedClient.Core
