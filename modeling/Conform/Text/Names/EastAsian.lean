/-!
# Names of characters 3000 to FFFF

The names of the scripts of East Asia and of the rest of the first plane,
in the written form that `CharacterName.search` reads.
-/

namespace Conform

/-- The names of the characters 3000 to FFFF. -/
def eastAsianNames : String := "
z3000aIDEOGRAPHIC>PACEmCOMMAmFULL>TOPaDITTO_M+KaJAP=ES;:DUSTRI&>T=D+D>YMBOLaIDEOGRAPHIC_IT,ATI@_M+K
mCLOS:G_M+KmNUMB,_Z,Oa|FT_=GL;BRACKETaR._=GL;BRACKETa|FT_DOUBL;=GL;BRACKETaR._DOUBL;=GL;BRACKET
a|FT_CORN,_BRACKETaR._CORN,_BRACKETa|FT_WHIT;CORN,_BRACKETaR._WHIT;CORN,_BRACKET
a|FT_BLACK_|NTICUL+_BRACKETaR._BLACK_|NTICUL+_BRACKETaPOST&_M+KaGETA_M+Ka|FT_TORTOIS;SHELL_BRACKET
aR._TORTOIS;SHELL_BRACKETa|FT_WHIT;|NTICUL+_BRACKETaR._WHIT;|NTICUL+_BRACKET
a|FT_WHIT;TORTOIS;SHELL_BRACKETaR._WHIT;TORTOIS;SHELL_BRACKETa|FT_WHIT;SQU+;BRACKET
aR._WHIT;SQU+;BRACKETaWAV;DASHaREV,SE^DOUBL;PRIM;QUOTATI@_M+KaDOUBL;PRIM;QUOTATI@_M+K
aLOW_DOUBL;PRIM;QUOTATI@_M+KaPOST&_M+K_FACEaH=GZHOU_NUM,&_@ErTWOsHREErFOURsIVErSIXsEV~rE.rN:E
aIDEOGRAPHIC_|VEL_T@;M+KmRIS:G_T@;M+KmDEP+T:G_T@;M+Km~T,:G_T@;M+KaH=GUL>:GL;DOT_T@;M+K
hDOUBL;DOT_T@;M+KaWAVY_DASHaV,TIC&_K=A_REPEAT_M+KvWITH_VOICED>OUN^M+KvM+K_UPP,_H&F
vWITH_VOICED>OUN^M+K_UPP,_H&FvM+K_LOW,_H&FaCIRC|^POST&_M+K
aIDEOGRAPHIC_TE|GRAPH_L:;FEED>EP+ATOR>YMBOLaH=GZHOU_NUM,&_T~sW~TYsHIRTY
aV,TIC&_IDEOGRAPHIC_IT,ATI@_M+KaMASU_M+KaP+T_&T,NATI@_M+KaIDEOGRAPHIC_V+IATI@_:DICATORmH&F_FILL>PACE
z3041aHIRAG=A_|TT,>M&L_AqAqSM&L_IqIqSM&L_UqUqSM&L_EqEqSM&L_OqOqKAqGAqKIqGIqKUqGUqKEqGEqKOqGOqSAqZA
qSIqZIqSUqZUqSEqZEqSOqZOqTAqDAqTIqDIqSM&L_TUqTUqDUqTEqDEqTOqDOqNArIrUrErOqHAqBAqPAqHIqBIqPIqHUqBUqPU
qHEqBEqPEqHOqBOqPOqMArIrUrErOqSM&L_YAqYAqSM&L_YUqYUqSM&L_YOqYOqRArIrUrErOqSM&L_WAqWArIrErOqNqVU
qSM&L_KAxEz3099aCOMB::G_KATAK=A-HIRAG=A_VOICED>OUN^M+Ky=A>EMI-VOICED>OUN^M+K
aKATAK=A-HIRAG=A_VOICED>OUN^M+KsSEMI-VOICED>OUN^M+KaHIRAG=A_IT,ATI@_M+KjVOICE^IT,ATI@_M+K
jDIGRAPH_YORIaKATAK=A-HIRAG=A_DOUBL;HYPH~i_|TT,>M&L_AqAqSM&L_IqIqSM&L_UqUqSM&L_EqEqSM&L_OqOqKAqGAqKI
qGIqKUqGUqKEqGEqKOqGOqSAqZAqSIqZIqSUqZUqSEqZEqSOqZOqTAqDAqTIqDIqSM&L_TUqTUqDUqTEqDEqTOqDOqNArIrUrErO
qHAqBAqPAqHIqBIqPIqHUqBUqPUqHEqBEqPEqHOqBOqPOqMArIrUrErOqSM&L_YAqYAqSM&L_YUqYUqSM&L_YOqYOqRArIrUrErO
qSM&L_WAqWArIrErOqNqVUqSM&L_KAxEqVArIrErOjMIDDL;DOTi-HIRAG=A_PROL@GED>OUN^M+Ki_IT,ATI@_M+K
jVOICE^IT,ATI@_M+KjDIGRAPH_KOTOz3105aBOPOMOFO_|TT,_BqPqMqFqDqTqNqLqGqKqHqJqQqXqZHqCHqSHqRqZqCqSqAqO
qErHqAIqEIqAUqOUq=q~q=Gq~GrRqIqUqIUqVqNGqGNqIHqO$DOT_ABOVEqNNz3131aH=GU!KIYEOKoSS=GKIYEOK
oKIYEOK-SIOSoNIEUNt-CIEUCuHIEUHoTIKEUToSS=GTIKEUToRIEULt-KIYEOKuMIEUMuPIEUPuSIOSuTHIEUTHuPHIEUPH
uHIEUHoMIEUMoPIEUPoSS=GPIEUPoPIEUP-SIOSoSIOSpS=GSIOSoIEUNGoCIEUCoSS=GCIEUCoCHIEUCHoKHIEUKHoTHIEUTH
oPHIEUPHoHIEUHoApEoYAqEoEOpoYEOqoOoWAqEoOEoYOoUoWEOqpIoYUoEUoYIoIhFILL,h|TT,>S=GNIEUNoNIEUN-TIKEUT
uSIOSuP=SIOSoRIEUL-KIYEOK-SIOSuTIKEUTuPIEUP-SIOSv=SIOSuYEOR:HIEUHoMIEUM-PIEUPuSIOSuP=SIOS
oKAPYEOUNMIEUMoPIEUP-KIYEOKuTIKEUTuSIOS-KIYEOKy-TIKEUTuCIEUCuTHIEUTHoKAPYEOUNPIEUPwSS=GPIEUP
oSIOS-KIYEOKtNIEUNtTIKEUTtPIEUPtCIEUCoP=SIOSoSS=GIEUNGoYESIEUNGw-SIOSxP=SIOSoKAPYEOUNPHIEUPH
oSS=GHIEUHoYEOR:HIEUHpO-YAtErIpU-YEOtrIo+AEAtEz3190aIDEOGRAPHIC_=NOTATI@_L:K:G_M+KxREV,S;M+Kx@;M+K
xTWO_M+KyHRE;M+KxFOUR_M+KxTOP_M+KxMIDDL;M+KxBOTTOM_M+KxFIRST_M+KxSEC@^M+KxTHIR^M+KxFOURTH_M+K
xHEAV~_M+KxE+TH_M+KxM=_M+KaBOPOMOFO_|TT,_BUqZIqJIqGUqEErNNqOOrNNqIRq=Nq:NqUNNqIMqNGGqA:NrUNNrMqOMrNG
q:NNjF:A!PwTwKwHj|TT,_GHqLHqZYjF:A!Gj|TT,_GWqKWqOEqAHaCJK>TROK;TlWGlXGlBXGlSWlHZZnGmPmZWGlSZWGlHZT
nZPmPWGmZWnZZlNlHlSlPlSPlDlHZmGlSZmWZmTmGlPDmZlTNlSZZmWGlHXWGmZZZGlPGlQz31F0aKATAK=A_|TT,>M&L_KUwSI
xUwTOwNUwHAxIxUxExOwMUwRAxIxUxExOaP+~THESIZE^H=GUL_KIYEOKvNIEUNvTIKEUTvRIEULvMIEUMvPIEUPvSIOSvIEUNG
vCIEUCwHIEUCHvKHIEUKHvTHIEUTHvPHIEUPHvHIEUHvKIYEOK_AvNIEUN_AvTIKEUT_AvRIEUL_AvMIEUM_AvPIEUP_AvSIOS_A
vIEUNG_AvCIEUC_AwHIEUCH_AvKHIEUKH_AvTHIEUTH_AvPHIEUPH_AvHIEUH_AvCIEUC_UoKORE=_CH+ACT,_OJE@
yRACT,_O_HUz3220oIDEOGRAPH_@EyTWOyTHREEyFOURyFIVEySIXySEV~yE.yN:EyT~yMO@yFIREyWAT,yWOODyMET&yE+TH
ySUNySTOCKyHAVEySOCIETYyNAMEySPECI&yF:=CI&yC@GRATULATI@yLABORyREPRES~TyC&LySTUDYySUP,VISEy~T,PRISE
yRESOURCEy&LI=CEyFESTIV&yRESTySELFyREACHaCIRC|^IDEOGRAPH_QUESTI@sK:D,G+T~sSCHOOLsKOTO
iNUMB,_T~_@_BLACK>QU+EqW~TY_@_BLACK>QU+EqHIRTY_@_BLACK>QU+EpFORTY_@_BLACK>QU+EqIFTY_@_BLACK>QU+E
pSIXTY_@_BLACK>QU+EqEV~TY_@_BLACK>QU+EpE.Y_@_BLACK>QU+EaP+TN,SHIP>IGNaCIRC|^NUMB,_TW~TY_@EwTWOxHREE
wFOURxIVEwSIXxEV~wE.wN:EqHIRTYv_@EwTWOxHREEwFOURxIVEiH=GUL_KIYEOKpNIEUNpTIKEUTpRIEULpMIEUMpPIEUP
pSIOSpIEUNGpCIEUCqHIEUCHpKHIEUKHpTHIEUTHpPHIEUPHpHIEUHpKIYEOK_ApNIEUN_ApTIKEUT_ApRIEUL_ApMIEUM_A
pPIEUP_ApSIOS_ApIEUNG_ApCIEUC_AqHIEUCH_ApKHIEUKH_ApTHIEUTH_ApPHIEUPH_ApHIEUH_AiKORE=_CH+ACT,_CHAMKO
y_JUEUIiH=GUL_IEUNG_UaKORE=>T=D+D>YMBOLaCIRC|^IDEOGRAPH_@EsTWOtHREEsFOURtIVEsSIXtEV~sE.sN:EsT~sMO@
sFIREsWAT,tOODsMET&sE+THsSUNtTOCKsHAVEsSOCIETYsNAMEsSPECI&sF:=CI&sC@GRATULATI@sLABORsSECRETsM&E
sFEM&EsSUITAB|sEXCEL|NTsPR:TsATT~TI@sITEMsRESTsCOPYuRRECTsHIGHsC~TREsLOWtEFTsR.sMEDIC:EsRELIGI@
sSTUDYtUP,VISEs~T,PRISEsRESOURCEs&LI=CEsN.iNUMB,_THIRTY>IXxEV~wE.wN:EpFORTYu_@EvTWOwHREEvFOURwIVE
vSIXwEV~vE.vN:EqIFTYaIDEOGRAPHIC_TE|GRAPH>YMBOL_FOR_J=U+YyMBOL_FOR_FEBRU+YyMBOL_FOR_M+CH
yMBOL_FOR_APRILyMBOL_FOR_MAYyMBOL_FOR_JUNEyMBOL_FOR_JULYyMBOL_FOR_AUGUSTyMBOL_FOR>EPTEMB,
yMBOL_FOR_OCTOB,yMBOL_FOR_NOVEMB,yMBOL_FOR_DECEMB,aSQU+;HGh,GiVaLIMITE^LIABILITY>IGNaCIRC|^KATAK=A_A
rIrUrErOrKAsIsUsEsOrSAsIsUsEsOrTAsIsUsEsOrNAsIsUsEsOrHAsIsUsEsOrMAsIsUsEsOrYAsUsOrRAsIsUsEsOrWAsIsE
sOaSQU+;,A_NAM;REIWAhAPAATOiRUHUAiNPEAi+Uh::GUjTIhU@hESUKUUDOiEKAAh@SUiOMUhKAIRIjRATTOkORIIhG+@jNMA
iIGAjNIIhKYURIIhGIRUDAAhKIROlGURAMUlMEETORUlWATTOhGURAMUnT@hKURUZEIROkO@EiEESUiORUNAjOPOhSAIKURU
jNTIIMUiIR:GUi~TIlOhDAASUiESIiORUhT@hN=OiOTTOhHAITUhPAAS~TOkTUhBA+,UhPIASUTORUjKURUkOhBIRUhHU+ADDO
jIITOhBUSSY,UhHUR=iEKUTA+UhPESOjNIHIhH,UTUhP~SUjEZIhBEETAhPO:TOhBORUTOhH@hP@DOhHOORUkNhMAIKUROkRU
jHHAjRUKUjNSY@iIKUR@jRIlBA+UiEGAlT@jETORUhYAADOkRUiU=hRITTORUjRAiUPIIjUBURUiEMUjNTOG~hWATTO
aIDEOGRAPHIC_TE|GRAPH>YMBOL_FOR_HOUR_Z,OyMBOL_FOR_HOUR_@EyMBOL_FOR_HOUR_TWOyMBOL_FOR_HOUR_THREE
yMBOL_FOR_HOUR_FOURyMBOL_FOR_HOUR_FIVEyMBOL_FOR_HOUR>IXyMBOL_FOR_HOUR>EV~yMBOL_FOR_HOUR_E.
yMBOL_FOR_HOUR_N:EyMBOL_FOR_HOUR_T~yMBOL_FOR_HOUR_E|V~yMBOL_FOR_HOUR_TWELVEyMBOL_FOR_HOUR_THIRTE~
yMBOL_FOR_HOUR_FOURTE~yMBOL_FOR_HOUR_FIFTE~yMBOL_FOR_HOUR>IXTE~yMBOL_FOR_HOUR>EV~TE~
yMBOL_FOR_HOUR_E.E~yMBOL_FOR_HOUR_N:ETE~yMBOL_FOR_HOUR_TW~TYyMBOL_FOR_HOUR_TW~TY-@E
yMBOL_FOR_HOUR_TW~TY-TWOyMBOL_FOR_HOUR_TW~TY-THREEyMBOL_FOR_HOUR_TW~TY-FOURaSQU+;HPAhDAhAUhB+hOVhPC
hDMj>QU+EDkCUBEDhIUh,A_NAM;HEISEIqSYOUWAqTAISYOUqMEIZIhCORPORATI@hPA_AMPShNAhMU_AiAhKAiBhMBhGBhC&
hKC&hPFhNFhMU_FkGiGhKGhHZhKHZhMHZhGHZhTHZhMU_LiLhDLhKLhFMhNMhMU_MiMhCMhKMhMM>QU+EDhCM>QU+EDhM>QU+ED
hKM>QU+EDhMM_CUBEDhCM_CUBEDhM_CUBEDhKM_CUBEDhM_OV,>p>QU+EDhPAhKPAhMPAhGPAhRADk_OV,>r>QU+EDhPShNShMU>
iShPVhNVhMU_ViVhKVhMV_MEGAhPWhNWhMU_WiWhKWhMW_MEGAhK_OHMhM_OHMhAMhBQhCCiDi_OV,_KGiOhDBhGYhHAiPh:hKK
iM_%LiThLMiNiOGiXhMB>M&LiILiOLhPHiMiPMiRhSRiVhWBhV_OV,_MhA_OV,_M
aIDEOGRAPHIC_TE|GRAPH>YMBOL_FOR_DAY_@EyMBOL_FOR_DAY_TWOyMBOL_FOR_DAY_THREEyMBOL_FOR_DAY_FOUR
yMBOL_FOR_DAY_FIVEyMBOL_FOR_DAY>IXyMBOL_FOR_DAY>EV~yMBOL_FOR_DAY_E.yMBOL_FOR_DAY_N:EyMBOL_FOR_DAY_T~
yMBOL_FOR_DAY_E|V~yMBOL_FOR_DAY_TWELVEyMBOL_FOR_DAY_THIRTE~yMBOL_FOR_DAY_FOURTE~yMBOL_FOR_DAY_FIFTE~
yMBOL_FOR_DAY>IXTE~yMBOL_FOR_DAY>EV~TE~yMBOL_FOR_DAY_E.E~yMBOL_FOR_DAY_N:ETE~yMBOL_FOR_DAY_TW~TY
yMBOL_FOR_DAY_TW~TY-@EyMBOL_FOR_DAY_TW~TY-TWOyMBOL_FOR_DAY_TW~TY-THREEyMBOL_FOR_DAY_TW~TY-FOUR
yMBOL_FOR_DAY_TW~TY-FIVEyMBOL_FOR_DAY_TW~TY-SIXyMBOL_FOR_DAY_TW~TY-SEV~yMBOL_FOR_DAY_TW~TY-E.
yMBOL_FOR_DAY_TW~TY-N:EyMBOL_FOR_DAY_THIRTYyMBOL_FOR_DAY_THIRTY-@EaSQU+;G&
z4DC0aHEXAGRAM_FOR_TH;CREATIV;HEAV~rRECEPTIV;E+THnDIFFICULTY_AT_TH;BEG:N:GnYOUTHFUL_FOLLYnWAIT:G
nC@FLICTnTH;+MYnHOLD:G_TOGETH,nSM&L_TAM:GnTREAD:GnPEACEnST=DSTILLnFELLOWSHIPnGREAT_POSSESSI@nMODESTY
n~THUSIASMnFOLLOW:GnWORK_@_TH;DECAYEDnAPPROACHnC@TEMPLATI@nBIT:G_THROUGHnGRACEnSPLITT:G_AP+TnRETURN
n:NOC~CEnGREAT_TAM:GnMOUTH_CORN,SnGREAT_PREP@D,=CEnTH;ABYSM&_WAT,rCL:G:G_FIREn:FLU~CEnDURATI@
nRETREATnGREAT_POW,nPROGRESSnD+K~:G_OF_TH;L.nTH;FAMILYnOPPOSITI@oBSTRUCTI@nDELIV,=CEpCREASEn:CREASE
nBREAKTHROUGHnCOM:G_TO_MEETnGATH,:G_TOGETH,nPUSH:G_UPW+DnOPPRESSI@nTH;WELLnREVOLUTI@nTH;CAULDR@
r+OUS:G_THUND,rKEEP:G>TILL_MOUNTA:nDEVELOPM~TnTH;M+RY:G_MAID~nABUND=CEnTH;W=D,,rG~TL;W:DrJOYOUS_LAKE
nDISP,SI@nLIMITATI@n:N,_TRUTHnSM&L_PREP@D,=CEnAFT,_COMP|TI@nBEFOR;COMP|TI@zA000aYI>YLLABL;ITnXnnPnET
oXooPmATnXnnPmUOXooPmOTnXnnPmEXnmWUmBIToXooPoETpXppPnAToXooPnUOXppPnOToXooPnEXooPnUToXooPoRXpnYToXo
oPoRXpmPIToXooPoEXppPnAToXooPnUOXppPnOToXooPnUToXooPoRXpnYToXooPoRXpmBBITpXppPpETqXqqPoATpXppPoUOXq
qPoOTpXppPoEXppPoUTpXppPpRXqoYTpXppPmNBITpXppPpEXqqPoATpXppPoOTpXppPoUTpXppPpRXqoYTpXppPpRXqmHMITpXp
pPpEXqqPoATpXppPoUOXqqPoOTpXppPoUTpXppPpRXqoYXppPpRXqmMIToXooPoEXppPnAToXooPnUOTpXppPnOToXooPnEXonUT
oXooPoRXpnYToXooPmFIToXooPnAToXooPnOXooPnUToXooPoRXpnYToXooPmVIToXooPoETpXppPnAToXooPnOToXooPnEXoP
nUToXooPoRXpnYToXooPoRXpmDIToXooPoEXppPnAToXooPnUOXpnOToXooPnEXooPnUToXooPoRXpmTIToXooPoEXppPnAToXo
oPnUOTpXppPnOToXooPnEXooPnUToXooPoRXpmDDITpXppPpEXqqPoATpXppPoUOXqqPoOTpXppPoEXppPoUTpXppPpRXqmNDIT
pXppPpEXqoATpXppPoOTpXppPoEXppPoUTpXppPpRXqmHNITpXppPpETqXqqPoATpXppPoUOXqoOTpXpPoEXppPoUTmNIToXooP
oEXppPnAXooPnUOXppPnOToXooPnEXooPnUToXooPoRXpmHLITpXppPpEXqqPoATpXppPoUOXqqPoOXppPoEXppPoUTpXppPpRXq
oYTpXppPpRXqmLIToXooPoETpXppPnAToXooPnUOTpXppPnOToXooPnEXooPnUToXooPoRXpnYToXooPoRXpmGIToXooPoETpXp
pPnAToXooPnUOTpXppPnOToXooPnEToXooPnUToXooPoRXpmKIToXooPoEXppPnAToXooPnUOXppPnOToXooPnEToXooPnUToXo
oPoRXpmGGITpXppEXqqPoATpXppPoUOTqXqqPoOTpXppPoETpXppPoUTpXppPpRXqmMGIEXqoATpXppPoUOXqqPoOTpXppPoEXp
pPoUTpXppPpRXqmHXITpXppPpETqXqqPoATpXppPoUOTqXqqPoOTpXppPoEXppPmNGIEXqqPoATpXppPoUOTqXqoOTpXppPoEXp
pPmHIToEXpnAToXooPnUOTpXppPnOToXooPnEXooPmWAToXooPnUOXppPnOXooPnEXooPmZIToXooPoEXppPnAToXooPnUOXppP
nOToXooPnEXooPnUToXooPoRXpnYToXooPoRXpmCIToXooPoETpXppPnAToXooPnUOXppPnOToXooPnEXooPnUToXooPoRXpnYT
oXooPoRXpmZZITpXppPpETqXqqPoATpXppPoOXppPoEXppPoUXppPpRXqoYTpXppPpRXqmNZITpXppPpEXqqPoATpXppPoUOXq
oOXpPoEXpoUXppPpRXqoYTpXppPpRXqmSIToXooPoEXppPnAToXooPnUOXppPnOToXooPnEXooPnUToXooPoRXpnYToXooPoRXp
nSITpXppPpEXqqPoATpXppPoOTpXppPoEXppPoUTpXppPoYTpXppPpRXqmZHATpXppPoUOXqqPoOTpXppPoETpXppPoUTpXppP
pRXqoYTpXppPpRXqmCHATpXppPoUOTqXqqPoOTpXppPoETpXppPoUXppPpRXqoYTpXppPpRXqmRRAXpoUOXqoOTpXppPoETpXppP
oUTpXppPpRXqoYTpXppPpRXqmNRATpXppPoOXppPoETpXppPoUTpXppPpRXqoYTpXppPpRXqmSHATpXppPoUOXqqPoOTpXppPoET
pXppPoUTpXppPpRXqoYTpXppPpRXqmRAToXooPnUOXppPnOToXooPnEXooPnUToXooPoRXpnYToXooPoRXpmJIToXooPoETpXppP
nUOTpXppPnOToXooPnUToXooPoRXpnYToXooPoRXpmQIToXooPoETpXppPnUOTpXppPnOToXooPnUToXooPoRXpnYToXooPoRXp
mJJITpXppPpETqXqqPoUOXqqPoOTpXppPoUTpXppPpRXqoYTpXppPmNJITpXppPpETqXqqPoUOXqoOTpXppPoUXppPpRXqoYTpXp
pPpRXqnYITpXppPpETqXqqPoUOXqqPoOTpXppPoUTpXppPmXIToXooPoETpXppPnUOXpnOToXooPnYToXooPoRXpmYIToXooPoET
pXppPnUOTpXppPnOToXooPnUToXooPoRXpnYToXooPoRXpzA490dRADIC&_QOTlLIlKITlNYIPlCYPlSSIlGGOPmEPlMIlHXIT
lLYRlBBUTlMOPlYOlPUTlHXUOlTATlGAlZUPlCYTlDDURlBURlGGUOlNYOPlTUlOPlJJUTlZOTlPYTlHMOlYITlVURlSHYlVEP
lZAlJOlNZUPlJJYlGOTlJJIElWOlDUlSHURlLIElCYmUOPmIPlHXOPlSHATlZURlSHOPlCHElZZIETlNBIElKE
zA4D0aLISU_|TT,_BAmPAnHAmDAmTAnHAmGAmKAnHAmJAmCAnHAmDZAmTSAoHAmMAmNAmLAmSAmZHAnAmNGAmHAmXAmHHAmFAmWA
mSHAmYAmGHAmAnEmEnUmImOmUnEnHmOEmT@;MYA_TIrNA_POrMYA_CYAvBOvNAvJEUfPUNCTUATI@_COMMArFULL>TOP
aVAI>YLLABL;EEpNnHEEnWEEqNnPEEnBHEEoEEnMBEEnKPEEnMGBEEnGBEEnFEEnVEEnTEEoHEEnDHEEpHEEn|EnREEnDEEnNDEE
nSEEoHEEnZEEoHEEnCEEnJEEnNJEEnYEEnKEEnNGGEEnGEEnMEEnNEEoYEEnIoNnHIpNnWIpNnPInBHIoInMBInKPInMGBInGBI
nFInVInTIoHInDHIpHInLInRInDInNDInSIoHInZIoHInCInJInNJInYInKInNGGInGInMInNIoYInAoNnNG=nHApNnWApNnPA
nBHAoAnMBAnKPAqNnMGBAnGBAnFAnVAnTAoHAnDHApHAnLAnRAnDAnNDAnSAoHAnZAoHAnCAnJAnNJAnYAnKApNnNGGAnGAnMA
nNAoYAnOOpNnHOOnWOOqNnPOOnBHOOoOOnMBOOnKPOOnMGBOOnGBOOnFOOnVOOnTOOoHOOnDHOOpHOOnLOOnROOnDOOnNDOOnSOO
oHOOnZOOoHOOnCOOnJOOnNJOOnYOOnKOOnNGGOOnGOOnMOOnNOOoYOOnUoNnHUpNnWUpNnPUnBHUoUnMBUnKPUnMGBUnGBUnFU
nVUnTUoHUnDHUpHUnLUnRUnDUnNDUnSUoHUnZUoHUnCUnJUnNJUnYUnKUnNGGUnGUnMUnNUoYUnOoNnNG@nHOpNnWOpNnPOnBHO
oOnMBOnKPOnMGBOnGBOqNnFOnVOnTOoHOnDHOpHOnLOnROnDOnNDOnSOoHOnZOoHOnCOnJOnNJOnYOnKOnNGGOnGOnMOnNOoYOnE
oNnNG~nHEpNnWEpNnPEnBHEoEnMBEnKPEqNnMGBEnGBEqNnFEnVEnTEoHEnDHEpHEn|nREnDEnNDEnSEoHEnZEoHEnCEnJEnNJE
nYEnKEnNGGErNnGEpNnMEnNEoYEoGn|NGTH~,eCOMMAeFULL>TOPeQUESTI@_M+KeSYLLABL;NDOL;FAtKAtSOOgMBOL_FE~G
lKE~GlT:GlNIIlB=GlFAAlTAAlD=GmO@GlKUNGlT@GlDO-OlJ@GeDIGIT_Z,Ok@EkTWOlHREEkFOURlIVEkSIXlEV~kE.kN:E
eSYLLABL;NDOL;MAtDOzA640aCYRILLIC_%!ZEMLYAjSM&!ZEMLYAj%!DZELOjSM&!DZELOj%!REV,SE^DZEjSM&!REV,SE^DZE
j%!IOTAjSM&!IOTAj%!DJ,VjSM&!DJ,Vj%!M@OGRAPH_UKjSM&!M@OGRAPH_UKj%!BROA^OMEGAjSM&!BROA^OMEGA
j%!NEUTR&_Y,jSM&!NEUTR&_Y,j%!Y,U$BACK_Y,jSM&!Y,U$BACK_Y,j%!IOTIFIE^YATjSM&!IOTIFIE^YATj%!REV,SE^YU
jSM&!REV,SE^YUj%!IOTIFIE^AjSM&!IOTIFIE^Aj%!CLOSE^LITTL;YUSjSM&!CLOSE^LITTL;YUSj%!B|NDE^YUS
jSM&!B|NDE^YUSj%!IOTIFIE^CLOSE^LITTL;YUSjSM&!IOTIFIE^CLOSE^LITTL;YUSj%!YNjSM&!YNj%!REV,SE^TSE
jSM&!REV,SE^TSEj%!SOFT_DEjSM&!SOFT_DEj%!SOFT_ELjSM&!SOFT_ELj%!SOFT_EMjSM&!SOFT_EMj%!M@OCUL+_O
jSM&!M@OCUL+_Oj%!B:OCUL+_OjSM&!B:OCUL+_Oj%!DOUBL;M@OCUL+_OjSM&!DOUBL;M@OCUL+_Oj|TT,_MULTIOCUL+_O
bOMB::G_CYRILLIC_VZMETtT~_MILLI@S>IGNtHUNDRE^MILLI@S>IGNtTHOUS=^MILLI@S>IGNaSLAV@IC_AST,ISK
aCOMB::G_CYRILLIC_|TT,_UKRA:I=_IEyR_IyR_YIyR_UyR_H+D>IGNyR_Y,UyR>OFT>IGNyR_OMEGAtKAVYKAtPAY,OK
bYRILLIC_KAVYKAjPAY,OKj%!DWEjSM&!DWEj%!DZWEjSM&!DZWEj%!ZHWEjSM&!ZHWEj%!CCHEjSM&!CCHEj%!DZZEjSM&!DZZE
j%!TE$MIDDL;HOOKjSM&!TE$MIDDL;HOOKj%!TWEjSM&!TWEj%!TSWEjSM&!TSWEj%!TSSEjSM&!TSSEj%!TCHEjSM&!TCHE
j%!HWEjSM&!HWEj%!SHWEjSM&!SHWEj%!DOUBL;OjSM&!DOUBL;Oj%!CROSSE^OjSM&!CROSSE^O
aMODIFI,_|TT,_CYRILLIC_H+D>IGNy>OFT>IGNaCOMB::G_CYRILLIC_|TT,_EFyR_IOTIFIE^EaBAMUM_|TT,_AnKAnUnKUnEE
nREEnTAEnOnNYInInLAnPAnRIIpEEn|EEEnMEEEEnTAAnNDAAoJAEMnMnSUUnMUnSHIIoIoHEUXoEUXnKYEEoETnNUAEpoJUAE
nYOQnSHUnYUQoAnNSHAnKEUXnPEUXnNJEEoTEEnPUEnWUEnPEEnFEEnRUnLUnMInNInREUXoAEnK~nNGKWA~pGApAnSHOnPUAE
nFUoOMnWAnNAnLInPInLOQnKOnMB~nR~nM~oAnTInKInMOoBAAnTETnKPAnT~nNTUUnSAMBAnFAAMAEnKOVUUpGHOM
gCOMB::G_M+K_KOQND@vTUKW~TISgNJAEMLIgFULL>TOPgCOL@iMMAgSEMICOL@gQUESTI@_M+K
zA700aMODIFI,_|TT,_CH:ES;T@;Y:_P:GyT@;Y=G_P:GyT@;Y:>H=GyT@;Y=G>H=GyT@;Y:_QUyT@;Y=G_QUyT@;Y:_RU
yT@;Y=G_RUqEXTRA-HIGH_DOTTE^T@;B+qHIGH_DOTTE^T@;B+qMI^DOTTE^T@;B+qLOW_DOTTE^T@;B+
qEXTRA-LOW_DOTTE^T@;B+wHIGH_DOTTE^|FT-STEM_T@;B+qHIGH_DOTTE^|FT-STEM_T@;B+qMI^DOTTE^|FT-STEM_T@;B+
qLOW_DOTTE^|FT-STEM_T@;B+qEXTRA-LOW_DOTTE^|FT-STEM_T@;B+wHIGH_|FT-STEM_T@;B+qHIGH_|FT-STEM_T@;B+
qMI^|FT-STEM_T@;B+qLOW_|FT-STEM_T@;B+qEXTRA-LOW_|FT-STEM_T@;B+qDOT_V,TIC&_B+uSLASHuHORIZ@T&_B+
qLOW,_R._CORN,_=G|qRAISE^UP_+ROWxDOWN_+ROWxEXCLAMATI@_M+Kx:V,TE^EXCLAMATI@_M+K
qLOW_:V,TE^EXCLAMATI@_M+KqSTRESS_=^HIGH_T@EyN^LOW_T@EaLAT:_%!EGYPTOLOGIC&_&EFgSM&!EGYPTOLOGIC&_&EF
g%!EGYPTOLOGIC&_A:gSM&!EGYPTOLOGIC&_A:g%!H~GgSM&!H~Gg%!TZgSM&!TZg%!TRESILLOgSM&!TRESILLOg%!CUATRILLO
gSM&!CUATRILLOg%!CUATRILLO$COMMAgSM&!CUATRILLO$COMMAg|TT,>M&L_%L_Fy&>g%!AAgSM&!AAg%!AOgSM&!AOg%!AU
gSM&!AUg%!AVgSM&!AVg%!AV$HORIZ@T&_B+gSM&!AV$HORIZ@T&_B+g%!AYgSM&!AYg%!REV,SE^C$DOTgSM&!REV,SE^C$DOT
g%!K$STROKEgSM&!K$STROKEg%!K$DIAG@&>TROKEgSM&!K$DIAG@&>TROKEg%!K$STROK;=^DIAG@&>TROKE
gSM&!K$STROK;=^DIAG@&>TROKEg%!BROK~_LgSM&!BROK~_Lg%!L$HIGH>TROKEgSM&!L$HIGH>TROKE
g%!O$L@G>TROK;OV,LAYgSM&!O$L@G>TROK;OV,LAYg%!O$LOOPgSM&!O$LOOPg%!OOgSM&!OOg%!P$STROK;THROUGH_DESC~D,
gSM&!P$STROK;THROUGH_DESC~D,g%!P$FLOURISHgSM&!P$FLOURISHg%!P$SQUIRREL_TAILgSM&!P$SQUIRREL_TAIL
g%!Q$STROK;THROUGH_DESC~D,gSM&!Q$STROK;THROUGH_DESC~D,g%!Q$DIAG@&>TROKEgSM&!Q$DIAG@&>TROKE
g%!R_ROTUNDAgSM&!R_ROTUNDAg%!RUM_ROTUNDAgSM&!RUM_ROTUNDAg%!V$DIAG@&>TROKEgSM&!V$DIAG@&>TROKEg%!VY
gSM&!VYg%!VISIGOTHIC_ZgSM&!VISIGOTHIC_Zg%!THORN$STROKEgSM&!THORN$STROKE
g%!THORN$STROK;THROUGH_DESC~D,gSM&!THORN$STROK;THROUGH_DESC~D,g%!V~DgSM&!V~Dg%!ETgSM&!ETg%!ISgSM&!IS
g%!C@gSM&!C@aMODIFI,_|TT,_USaLAT:>M&!DUMtLUMtMUMtNUMtRUMg|TT,>M&L_%L_RUMgSM&!TUMtUMg%!:SUL+_D
gSM&!:SUL+_Dg%!:SUL+_FgSM&!:SUL+_Fg%!:SUL+_GvTURNE^:SUL+_GgSM&!TURNE^:SUL+_Gg%!TURNE^LgSM&!TURNE^L
g%!:SUL+_RgSM&!:SUL+_Rg%!:SUL+>gSM&!:SUL+>g%!:SUL+_TgSM&!:SUL+_TaMODIFI,_|TT,_LOW_CIRCUMF|X_ACC~T
qCOL@qSHORT_EQU&S>IGNaLAT:_%!S&TILLOgSM&!S&TILLOg%!TURNE^HgSM&!L$RETROF|X_HOOK_=^BELT
g|TT,>:OLOGIC&_DOTg%!N$DESC~D,gSM&!N$DESC~D,g%!C$B+gSM&!C$B+yH_P&AT&_HOOKtH$P&AT&_HOOKg%!B$FLOURISH
gSM&!B$FLOURISHg%!F$STROKEgSM&!F$STROKEg%!VOLAPUK_AEgSM&!VOLAPUK_AEg%!VOLAPUK_OEgSM&!VOLAPUK_OE
g%!VOLAPUK_UEgSM&!VOLAPUK_UEg%!G$OBLIQU;STROKEgSM&!G$OBLIQU;STROKEg%!K$OBLIQU;STROKE
gSM&!K$OBLIQU;STROKEg%!N$OBLIQU;STROKEgSM&!N$OBLIQU;STROKEg%!R$OBLIQU;STROKEgSM&!R$OBLIQU;STROKE
g%!S$OBLIQU;STROKEgSM&!S$OBLIQU;STROKEg%!H$HOOKvREV,SE^OP~_EvSCRIPT_GvL$BELTvSM&L_%L_Ig|TT,>M&L_%L_Q
g%!TURNE^KyNE^TvJ$CROSSED-TAILvCHIvBETAgSM&!BETAg%!OMEGAgSM&!OMEGAg%!U$STROKEgSM&!U$STROKE
g%!GLOTT&_AgSM&!GLOTT&_Ag%!GLOTT&_IgSM&!GLOTT&_Ig%!GLOTT&_UgSM&!GLOTT&_Ug%!OL^POLISH_O
gSM&!OL^POLISH_Og%!=GLIC=A_WgSM&!=GLIC=A_Wg%!C$P&AT&_HOOKvS$HOOKvZ$P&AT&_HOOKvD$SHORT>TROK;OV,LAY
gSM&!D$SHORT>TROK;OV,LAYg%!S$SHORT>TROK;OV,LAYgSM&!S$SHORT>TROK;OV,LAYzA7D0g%!CLOSE^:SUL+_G
gSM&!CLOSE^:SUL+_GzA7D3tDOUBL;THORNzA7D5y;WYNNg%!MIDDL;SCOTS>gSM&!MIDDL;SCOTS>g%!SIGMOID>
gSM&!SIGMOID>zA7F2aMODIFI,_|TT,_%L_CyFyQaLAT:_%!REV,SE^H&F_HgSM&!REV,SE^H&F_H
gEPIGRAPHIC_|TT,>IDEWAYS_IaMODIFI,_|TT,_%L_H$STROKEqSM&L_LIGATUR;OEaLAT:_|TT,>M&L_%L_TURNE^M
gEPIGRAPHIC_|TT,_REV,SE^FyREV,SE^Py:V,TE^MyI_L@GAy+CHAIC_MaSYLOTI_NAGRI_|TT,_AuInSIGN_DVISV+An|TT,_U
uEuOnSIGN_HAS=TAn|TT,_KOvHOuGOvHOnSIGN_=USV+An|TT,_COvHOuJOvHOuTTOwHOuDDOwHOuTOvHOuDOvHOuNOuPOvHOuBO
vHOuMOuROuLOuRROuSOuHOnVOWEL>IGN_AyIyUyEyOOnPOETRY_M+K-1y-2y-3y-4nSIGN_&T,NAT;HAS=TA
zA830aNORTH_:DIC_FRACTI@_@;QU+T,y_H&FvTHRE;QU+T,Sv@;SIXTE~THy_E.HvTHRE;SIXTE~THSmQU+T,_M+K
mPLACEHOLD,_M+KmRUPE;M+KmQU=TITY_M+KzA840aPHAGS-PA_|TT,_KArHAqGAqNGAqCArHAqJAqNYAqTArHAqDAqNAqPArHA
qBAqMAqTSAsHAqDZAqWAqZHArAqSM&L_AqYAqRAqLAqSHArAqHAqAqIqUqEqOqQAqXAqFAqGGAqEEjSUBJO:E^|TT,_WAyR_YA
j|TT,_TTAsHAqDDAqNNAq&T,NAT;YAqVOICE|SS>HAv^HAqASPIRATE^FAjSUBJO:E^|TT,_RAlP,FIXE^|TT,_RA
j|TT,_C=DRAB:DUjS:GL;HEA^M+KjDOUBL;HEA^M+KjM+K>HADoDOUBL;SHADzA880aSAURASHTRA>IGN_=USV+AqVIS+GA
l|TT,_AtAsItIsUtUsVOC&IC_RyC_RRyC_LyC_LLsEtEsAIsOtOsAUsKAtHAsGAtHAsNGAsCAtHAsJAtHAsNYAsTTAuHAsDDAuHA
sNNAsTAtHAsDAtHAsNAsPAtHAsBAtHAsMAsYAsRAsLAsVAsSHAtSAtAsHAsLLAlC@S@=T>IGN_HA+UlVOWEL>IGN_AAwIxIwUxU
wVOC&IC_RyC&IC_RRyC&IC_LyC&IC_LLwExEwAIwOxOwAUlSIGN_VIRAMAqC=DRAB:DUzA8CElD=DAmOUBL;D=DAmIGIT_Z,Or@E
rTWOsHREErFOURsIVErSIXsEV~rE.rN:EzA8E0aCOMB::G_DEV=AG+I_DIGIT_Z,OyIT_@EyIT_TWOyIT_THREEyIT_FOUR
yIT_FIVEyIT>IXyIT>EV~yIT_E.yIT_N:Ev|TT,_AyT,_UyT,_KAyT,_NAyT,_PAyT,_RAyT,_VIvSIGN_AVAGRAHA
aDEV=AG+I>IGN>PAC:G_C=DRAB:DUqC=DRAB:DU_VIRAMAqDOUBL;C=DRAB:DU_VIRAMAqC=DRAB:DU_TWOyNDU_THREE
yNDU_AVAGRAHAqPUSHPIKAlGAP_FILL,lC+ETlHEADSTROKElSIGN>IDDHAMlJA:_OMl|TT,_AYlVOWEL>IGN_AY
aKAYAH_LI_DIGIT_Z,Op@EpTWOqHREEpFOURqIVEpSIXqEV~pE.pN:Ej|TT,_KArHAqGAqNGAqSArHAqZAqNYAqTAqHTAqNAqPA
rHAqMAqDAqBAqRAqYAqLAqWAqTHAqHAqVAqCAqAqOEqIqOOjVOWEL_UEpEpUpEEpOjT@;PLOPHUoC&YAt_PLOPHUjSIGN_CWI
oSHYAaREJ=G_|TT,_KAoGAoNGAoTAoDAoNAoPAoBAoMAoCAoJAoNYAoSAoRAoLAoYAoWAoHAoMBAoNGGApDApYJAoA
hVOWEL>IGN_IsUsEsAIsOsAUsEUtAhC@S@=T>IGN_NGxwRwHhVIRAMAzA95FhSECTI@_M+KaH=GUL_CHOSE@G_TIKEUT-MIEUM
xPIEUPxSIOSxCIEUCqRIEUL-KIYEOKwSS=GKIYEOKwTIKEUTwSS=GTIKEUTwMIEUMwPIEUPwSS=GPIEUPwKAPYEOUNPIEUPwSIOS
wCIEUCwKHIEUKHqMIEUM-KIYEOKwTIKEUTwSIOSqPIEUP-SIOS-THIEUTHwKHIEUKHwHIEUHqSS=GSIOS-PIEUPqIEUNG-RIEUL
wHIEUHqSS=GCIEUC-HIEUHvTHIEUTHqPHIEUPH-HIEUHqHIEUH-SIOSqSS=GYEOR:HIEUHzA980aJAV=ES;SIGN_P=Y=GGA
oCECAKoLAY+oWIGNY=j|TT,_AqI_KAWIrrIqUqPA_C,EKqNGA_||TyT_RASWADIqEqAIqOqKAs>ASAKtMURDAqGAs_MURDAqNGA
qCAs_MURDAqJAqNYA_MURDAqJA_MAHAPR=AqNYAqTTAt_MAHAPR=AqDDAt_MAHAPR=AqNA_MURDAqTAs_MURDAqDAs_MAHAPR=A
qNAqPAs_MURDAqBAs_MURDAqMAqYAqRAs_AGUNGqLAqWAqSA_MURDAuAHAPR=AsqHAjSIGN_CECAK_TELUjVOWEL>IGN_T+UNG
vOL@GuWULUy_MELIKuSUKUy_M~DUTuT&:GuDIRGA_MUREuPEPETjC@S@=T>IGN_K,ETyP~GK&yCAKRAjP=GK@j|FT_R,~GG=
jR._R,~GG=jPADA_=DAPoMADYAoLUHURoW:DUoP=GKAToL:GSApUNGSIoADEGs_ADEGoPISE|HjTURNE^PADA_PISE|H
zA9CFjP=GR=GKEPjDIGIT_Z,Op@EpTWOqHREEpFOURqIVEpSIXqEV~pE.pN:EzA9DEjPADA_TIRTA_TUMETESoIS~-IS~
aMY=M+_|TT,>H=_GHAuCHAuJHAuNNAuBHAiSIGN>H=>AWiMODIFI,_|TT,>H=_REDUPLICATI@i|TT,_TAI_LA:G_NYAy_FAy_GA
y_GHAy_JAy_JHAy_DDAy_DDHAy_NNAiTAI_LA:G_DIGIT_Z,Oy@EyTWOyTHREEyFOURyFIVEySIXySEV~yE.yN:E
i|TT,_TAI_LA:G_LLAy_DAy_DHAy_BAy_BHAzAA00aCHAM_|TT,_AmImUmEmAImOmKAnHAmGAnHAmNGUEoAmCHAoHAmJAnHA
mNHUEoAoJAmTAnHAmDAnHAmNUEnAmDDAmPAnPAnHAmBAnHAmMUEnAmBBAmYAmRAmLAmVAmSSAnAmHAfVOWEL>IGN_AAqIrIqEIqU
qOErqAIrUqUEfC@S@=T>IGN_YAuRAuLAuWAzAA40f|TT,_F:&_KsGsNGfC@S@=T>IGN_F:&_NGf|TT,_F:&_CHsTsNsPsYsRsL
sSSfC@S@=T>IGN_F:&_MyL_HzAA50fDIGIT_Z,Ol@ElTWOmHREElFOURmIVElSIXmEV~lE.lN:EzAA5CfPUNCTUATI@>PIR&
rD=DAsOUBL;D=DArTRIPL;D=DAaMY=M+_|TT,_KHAMTI_GAwCAxHAwJAxHAwNYAwTTAyHAwDDAyHAxHAwNAwSAwHAxHAwFA
iMODIFI,_|TT,_KHAMTI_REDUPLICATI@i|TT,_KHAMTI_XAwZAwRAjOGOGRAM_KHAMTI_OAYyQNyHM
iSYMBOL_AIT@_EXCLAMATI@v@EvTWOi|TT,_AIT@_RAiSIGN_PAO_K+~_T@EnTAI_LA:G_T@E-2y@E-5i|TT,>HW;P&AUNG_CHA
yUNG>HAaTAI_VIET_|TT,_LOW_KOqHIGH_KOqLOW_KHOqHIGH_KHOqLOW_KHHOqHIGH_KHHOqLOW_GOqHIGH_GOqLOW_NGO
qHIGH_NGOqLOW_COqHIGH_COqLOW_CHOqHIGH_CHOqLOW>OqHIGH>OqLOW_NYOqHIGH_NYOqLOW_DOqHIGH_DOqLOW_TO
qHIGH_TOqLOW_THOqHIGH_THOqLOW_NOqHIGH_NOqLOW_BOqHIGH_BOqLOW_POqHIGH_POqLOW_PHOqHIGH_PHOqLOW_FO
qHIGH_FOqLOW_MOqHIGH_MOqLOW_YOqHIGH_YOqLOW_ROqHIGH_ROqLOW_LOqHIGH_LOqLOW_VOqHIGH_VOqLOW_HOqHIGH_HO
qLOW_OqHIGH_OjMAI_K=GjVOWEL_AApIpUEqpEpOjMAI_KHITjVOWEL_IApUEAqApAUEqYqNqMjT@;MAI_EKsNU~GsTHOsS@G
zAADBjSYMBOL_K@qNU~GqSAMqHO_HOIqKOI_KOIaMEETEI_MAYEK_|TT,_EuOuCHAuNYAuTTAwHAuDDAwHAuNNAuSHAvSA
nVOWEL>IGN_IIyUUyAAIyAUyAAUnCHEIKH=nAH=G_KHUDAMoNJInSYLLABL;REPETITI@_M+KnWOR^REPETITI@_M+K
nVOWEL>IGN_VIS+GAoIRAMAzAB01aETHIOPIC>YLLABL;TTHUvIvAAvEEwvOzAB09sDDHUvIvAAvEEwvOzAB11tZUuIuAAuEEvuO
zAB20sCCHHAwUwIwAAwEExwOzAB28sBBAuUuIuAAuEEvuOzAB30aLAT:>M&!B+RE^&PHAtA_REV,SED-SCHWAtBLACK|TT,_E
u+RE^EtE$FLOURISHt|NIS_FtSCRIPT_G$CROSSED-TAILtL$:V,TE^LAZY>yH_DOUBL;MIDDL;TILDEyH_MIDDL;R:G
tM$CROSSED-TAILtN$CROSSED-TAILt~G$CROSSED-TAILtBLACK|TT,_Oy|TT,_O$STROKEtOP~_O$STROKEt:V,TE^OE
tTURNE^OE$STROKEy^OE$HORIZ@T&>TROKEy^O_OP~-Oy^O_OP~-O$STROKEtSTIRRUP_Rg|TT,>M&L_%L_R$R._|G
gSM&!R_WITHOUT_H=D|tDOUBL;RtR$CROSSED-TAILtDOUBL;R$CROSSED-TAILtSCRIPT_RyT_R$R:GtBASEL:;ESH
tU$SHORT_R._|GvB+$SHORT_R._|GuItTURNE^UItU$|FT_HOOKtCHIw$LOW_R._R:GyITH_LOW_|FT>,IFtX$LOW_R._R:G
yH_L@G_|FT_|GyH_L@G_|FT_|G_=^LOW_R._R:GyH_L@G_|FT_|G$S,IFtY$SHORT_R._|GaMODIFI,_BREVE$:V,TE^BREVE
j|TT,>M&L_H~GwL$:V,TE^LAZY>yWITH_MIDDL;TILDEwU$|FT_HOOKaLAT:>M&!SAKHA_YATtIOTIFIE^EtOP~_OEtUO
t:V,TE^&PHAaGREEK_|TT,>M&L_%L_OMEGAaLAT:>M&!DZ_DIGRAPH$RETROF|X_HOOKtTS_DIGRAPH$RETROF|X_HOOK
uURNE^R$MIDDL;TILDEaMODIFI,_|TT,>M&L_TURNE^Wq|FT_TACKqR._TACKzAB70aCH,OKE;SM&!AwEwIwOwUwVwGAwKAwGExI
xOxUxVwHAxExIxOxUxVwLAxExIxOxUxVwMAxExIxOxUwNAwHNAwNAHxExIxOxUxVwQUAyEyIyOyUyVwSAxxExIxOxUxVwDAwTA
wDEwTEwDIwTIwDOxUxVxLAwTLAyEyIyOyUyVxSAyEyIyOyUyVwWAxExIxOxUxVwYAaMEETEI_MAYEK_|TT,_KOKuSAMuLAIuMIT
uPAuNAuCHILuTILuKHOUuNGOUuTHOUuWAIuY=GuHUKuUNuIuPHAMuATIYAuGOKuJHAMuRAIuBAuJILuDILuGHOUuDHOUuBHAM
uKOK_L@SUMuLAI_L@SUMuMIT_L@SUMuPA_L@SUMuNA_L@SUMuTIL_L@SUMuNGOU_L@SUMuI_L@SUMnVOWEL>IGN_@APy:APy=AP
yY~APySOUNAPyUNAPyCHE:APyNUNGnCHEIKHEInLUM_IYEKnAPUN_IYEKzABF0nDIGIT_Z,Ot@EtTWOuHREEtFOURuIVEtSIX
uEV~tE.tN:EzD7B0aH=GUL_JUNGSE@G_O-YEOtO-IrYO-AvEuEOrU-YEOtI-IrYU-AEuOrEU-AuEOvuOrI-YA-OvEuEOvtO-ItYO
uUtIr+AEA-AxEzD7CBi@GSE@G_NIEUN-RIEULxCHIEUCHrSS=GTIKEUTyKEUT-PIEUPrTIKEUT-PIEUPySIOSySIOS-KIYEOK
yCIEUCyCHIEUCHyTHIEUTHrRIEUL-SS=GKIYEOKxKIYEOK-HIEUHrSS=GRIEUL-KHIEUKHrRIEUL-MIEUM-HIEUH
xPIEUP-TIKEUTyIEUP-PHIEUPHxYESIEUNGyEOR:HIEUH-HIEUHrKAPYEOUNRIEULrMIEUM-NIEUNxSS=GNIEUNrSS=GMIEUM
rMIEUM-PIEUP-SIOSxCIEUCrPIEUP-TIKEUTxRIEUL-PHIEUPHxMIEUMrSS=GPIEUPrPIEUP-SIOS-TIKEUTxCIEUCyHIEUCH
rSIOS-MIEUMwKAPYEOUNPIEUPsS=GSIOS-KIYEOKyOS-TIKEUTsIOS-P=SIOSwCIEUCxHIEUCHwTHIEUTHwHIEUH
rP=SIOS-PIEUPy-KAPYEOUNPIEUPrYESIEUNG-MIEUMyG-HIEUHrCIEUC-PIEUPxSS=GPIEUPrSS=GCIEUCrPHIEUPH-SIOS
y-THIEUTHzFB00aLAT:>M&L_LIGATUR;FFwIwLwFIxLvL@G>_TvSTzFB13a+M~I=>M&L_LIGATUR;M~_NOWyM~_ECHyM~_:I
yVEW_NOWyM~_XEHzFB1DaHEBREW_|TT,_YOD$HIRIQhPO:T_JUDEO-SP=ISH_V+IKAhLIGATUR;YIDDISH_YO^YO^PATAH
iETT,_&T,NATIV;AY:oWID;&EFtD&ETtHEtKAFtLAMEDtF:&_MEMtRESHtTAVo&T,NATIV;PLUS>IGNoSH:$SH:_DOTyS:_DOT
yDAGESH_=D>H:_DOTyDAGESH_=D>:_DOTo&EF$PATAHyQAMATSyMAPIQoBET$DAGESHoGIMEL$DAGESHoD&ET$DAGESH
oHE$MAPIQoVAV$DAGESHoZAY:$DAGESHzFB38oTET$DAGESHoYOD$DAGESHoF:&_KAF$DAGESHoKAF$DAGESHoLAMED$DAGESH
zFB3EoMEM$DAGESHzFB40oNUN$DAGESHoSAMEKH$DAGESHzFB43oF:&_PE$DAGESHoPE$DAGESHzFB46oTSADI$DAGESH
oQOF$DAGESHoRESH$DAGESHoSH:$DAGESHoTAV$DAGESHoVAV$HOLAMoBET$RAFEoKAF$RAFEoPE$RAFEiIGATUR;&EF_LAMED
a+ABIC_|TT,_&EF_WASLA_ISOLATED<y_F:&<oBEEH_ISOLATED<tF:&<t:ITI&<tMEDI&<oPEH_ISOLATED<sF:&<s:ITI&<
sMEDI&<oBEHEH_ISOLATED<uF:&<u:ITI&<uMEDI&<oTTEHEH_ISOLATED<vF:&<v:ITI&<vMEDI&<pEHEH_ISOLATED<uF:&<
u:ITI&<uMEDI&<pTEH_ISOLATED<tF:&<t:ITI&<tMEDI&<oVEH_ISOLATED<sF:&<s:ITI&<sMEDI&<oPEHEH_ISOLATED<
uF:&<u:ITI&<uMEDI&<oDYEH_ISOLATED<tF:&<t:ITI&<tMEDI&<oNYEH_ISOLATED<tF:&<t:ITI&<tMEDI&<
oTCHEH_ISOLATED<uF:&<u:ITI&<uMEDI&<tEH_ISOLATED<wF:&<w:ITI&<wMEDI&<oDDAH&_ISOLATED<vF:&<
pAH&_ISOLATED<uF:&<pUL_ISOLATED<sF:&<pD&_ISOLATED<tF:&<oJEH_ISOLATED<sF:&<oRREH_ISOLATED<tF:&<
oKEHEH_ISOLATED<uF:&<u:ITI&<uMEDI&<oGAF_ISOLATED<sF:&<s:ITI&<sMEDI&<pUEH_ISOLATED<tF:&<t:ITI&<
tMEDI&<oNGOEH_ISOLATED<uF:&<u:ITI&<uMEDI&<pO@_GHUNNA_ISOLATED<yA_F:&<oRNO@_ISOLATED<uF:&<u:ITI&<
uMEDI&<oHEH$YEH_ABOV;ISOLATED<yEH_ABOV;F:&<sGO&_ISOLATED<xF:&<x:ITI&<xMEDI&<sDOACHASHME;ISOLATED<
ySHME;F:&<ySHME;:ITI&<ySHME;MEDI&<oYEH_B+RE;ISOLATED<y_F:&<y$HAMZA_ABOV;ISOLATED<y$HAMZA_ABOV;F:&<
hSYMBOL_DOT_ABOVEsBELOWoTWO_DOTS_ABOVExBELOWpHRE;DOTS_ABOVEy_BELOWy_PO:T:G_DOWNW+DS_ABOVE
y_PO:T:G_DOWNW+DS_BELOWoFOUR_DOTS_ABOVEyBELOWoDOUBL;V,TIC&_B+_BELOWoTWO_DOTS_V,TIC&LY_ABOVE
y,TIC&LY_BELOWoR:GoSM&L_TAH_ABOVEyBELOWoWASLA_ABOVEzFBD3h|TT,_NG_ISOLATED<rF:&<r:ITI&<rMEDI&<
oU_ISOLATED<qF:&<oO;ISOLATED<rF:&<oYU_ISOLATED<rF:&<oU$HAMZA_ABOV;ISOLATED<oV;ISOLATED<rF:&<
oKIRGHIZ_O;ISOLATED<y_F:&<wYU_ISOLATED<y_F:&<o;ISOLATED<qF:&<q:ITI&<qMEDI&<
oUIGHUR_KAZAKH_KIRGHIZ_&EF_MAKSURA_:ITI&<yAKH_KIRGHIZ_&EF_MAKSURA_MEDI&<
iIGATUR;YEH$HAMZA_ABOVE$&EF_ISOLATED<y_HAMZA_ABOVE$&EF_F:&<y_HAMZA_ABOVE$A;ISOLATED<
y_HAMZA_ABOVE$A;F:&<y_HAMZA_ABOVE$WAW_ISOLATED<y_HAMZA_ABOVE$WAW_F:&<y_HAMZA_ABOVE$U_ISOLATED<
y_HAMZA_ABOVE$U_F:&<y_HAMZA_ABOVE$O;ISOLATED<y_HAMZA_ABOVE$O;F:&<y_HAMZA_ABOVE$YU_ISOLATED<
y_HAMZA_ABOVE$YU_F:&<y_HAMZA_ABOVE$;ISOLATED<y_HAMZA_ABOVE$;F:&<y_HAMZA_ABOVE$;:ITI&<
qUIGHUR_KIRGHIZ_YEH$HAMZA_ABOVE$&EF_MAKSURA_ISOLATED<yIRGHIZ_YEH$HAMZA_ABOVE$&EF_MAKSURA_F:&<
yIRGHIZ_YEH$HAMZA_ABOVE$&EF_MAKSURA_:ITI&<iETT,_F+SI_YEH_ISOLATED<yF:&<y:ITI&<yMEDI&<
iIGATUR;YEH$HAMZA_ABOVE$JEEM_ISOLATED<y_HAMZA_ABOVE$HAH_ISOLATED<y_HAMZA_ABOVE$MEEM_ISOLATED<
y_HAMZA_ABOVE$&EF_MAKSURA_ISOLATED<y_HAMZA_ABOVE$YEH_ISOLATED<qBEH$JEEM_ISOLATED<y_HAH_ISOLATED<
y_KHAH_ISOLATED<y_MEEM_ISOLATED<y_&EF_MAKSURA_ISOLATED<y_YEH_ISOLATED<qTEH$JEEM_ISOLATED<
y_HAH_ISOLATED<y_KHAH_ISOLATED<y_MEEM_ISOLATED<y_&EF_MAKSURA_ISOLATED<y_YEH_ISOLATED<
rHEH$JEEM_ISOLATED<yH_MEEM_ISOLATED<yH_&EF_MAKSURA_ISOLATED<yH_YEH_ISOLATED<qJEEM$HAH_ISOLATED<
yH_MEEM_ISOLATED<qHAH$JEEM_ISOLATED<y_MEEM_ISOLATED<qKHAH$JEEM_ISOLATED<yH_HAH_ISOLATED<
yH_MEEM_ISOLATED<qSE~$JEEM_ISOLATED<yH_HAH_ISOLATED<yH_KHAH_ISOLATED<yH_MEEM_ISOLATED<
rAD$HAH_ISOLATED<y_MEEM_ISOLATED<qDAD$JEEM_ISOLATED<y_HAH_ISOLATED<y_KHAH_ISOLATED<y_MEEM_ISOLATED<
qTAH$HAH_ISOLATED<y_MEEM_ISOLATED<qZAH$MEEM_ISOLATED<qA:$JEEM_ISOLATED<y_MEEM_ISOLATED<
qGHA:$JEEM_ISOLATED<yTH_MEEM_ISOLATED<qFEH$JEEM_ISOLATED<y_HAH_ISOLATED<y_KHAH_ISOLATED<
y_MEEM_ISOLATED<y_&EF_MAKSURA_ISOLATED<y_YEH_ISOLATED<qQAF$HAH_ISOLATED<y_MEEM_ISOLATED<
y_&EF_MAKSURA_ISOLATED<y_YEH_ISOLATED<qKAF$&EF_ISOLATED<y_JEEM_ISOLATED<y_HAH_ISOLATED<
y_KHAH_ISOLATED<y_LAM_ISOLATED<y_MEEM_ISOLATED<y_&EF_MAKSURA_ISOLATED<y_YEH_ISOLATED<
qLAM$JEEM_ISOLATED<y_HAH_ISOLATED<y_KHAH_ISOLATED<y_MEEM_ISOLATED<y_&EF_MAKSURA_ISOLATED<
y_YEH_ISOLATED<qMEEM$JEEM_ISOLATED<yH_HAH_ISOLATED<yH_KHAH_ISOLATED<yH_MEEM_ISOLATED<
yH_&EF_MAKSURA_ISOLATED<yH_YEH_ISOLATED<qNO@$JEEM_ISOLATED<yH_HAH_ISOLATED<yH_KHAH_ISOLATED<
yH_MEEM_ISOLATED<yH_&EF_MAKSURA_ISOLATED<yH_YEH_ISOLATED<qHEH$JEEM_ISOLATED<y_MEEM_ISOLATED<
y_&EF_MAKSURA_ISOLATED<y_YEH_ISOLATED<qYEH$JEEM_ISOLATED<y_HAH_ISOLATED<y_KHAH_ISOLATED<
y_MEEM_ISOLATED<y_&EF_MAKSURA_ISOLATED<y_YEH_ISOLATED<qTH&$SUP,SCRIPT_&EF_ISOLATED<
qREH$SUP,SCRIPT_&EF_ISOLATED<q&EF_MAKSURA$SUP,SCRIPT_&EF_ISOLATED<qSHADDA$DAMMAT=_ISOLATED<
yITH_KASRAT=_ISOLATED<yITH_FATHA_ISOLATED<yITH_DAMMA_ISOLATED<yITH_KASRA_ISOLATED<
yITH>UP,SCRIPT_&EF_ISOLATED<qYEH$HAMZA_ABOVE$REH_F:&<y_HAMZA_ABOVE$ZA:_F:&<y_HAMZA_ABOVE$MEEM_F:&<
y_HAMZA_ABOVE$NO@_F:&<y_HAMZA_ABOVE$&EF_MAKSURA_F:&<y_HAMZA_ABOVE$YEH_F:&<qBEH$REH_F:&<y_ZA:_F:&<
y_MEEM_F:&<y_NO@_F:&<y_&EF_MAKSURA_F:&<y_YEH_F:&<qTEH$REH_F:&<y_ZA:_F:&<y_MEEM_F:&<y_NO@_F:&<
y_&EF_MAKSURA_F:&<y_YEH_F:&<rHEH$REH_F:&<yH_ZA:_F:&<yH_MEEM_F:&<yH_NO@_F:&<yH_&EF_MAKSURA_F:&<
yH_YEH_F:&<qFEH$&EF_MAKSURA_F:&<y_YEH_F:&<qQAF$&EF_MAKSURA_F:&<y_YEH_F:&<qKAF$&EF_F:&<y_LAM_F:&<
y_MEEM_F:&<y_&EF_MAKSURA_F:&<y_YEH_F:&<qLAM$MEEM_F:&<y_&EF_MAKSURA_F:&<y_YEH_F:&<qMEEM$&EF_F:&<
yH_MEEM_F:&<qNO@$REH_F:&<yH_ZA:_F:&<yH_MEEM_F:&<yH_NO@_F:&<yH_&EF_MAKSURA_F:&<yH_YEH_F:&<
q&EF_MAKSURA$SUP,SCRIPT_&EF_F:&<qYEH$REH_F:&<y_ZA:_F:&<y_MEEM_F:&<y_NO@_F:&<y_&EF_MAKSURA_F:&<
y_YEH_F:&<y_HAMZA_ABOVE$JEEM_:ITI&<y_HAMZA_ABOVE$HAH_:ITI&<y_HAMZA_ABOVE$KHAH_:ITI&<
y_HAMZA_ABOVE$MEEM_:ITI&<y_HAMZA_ABOVE$HEH_:ITI&<qBEH$JEEM_:ITI&<y_HAH_:ITI&<y_KHAH_:ITI&<
y_MEEM_:ITI&<y_HEH_:ITI&<qTEH$JEEM_:ITI&<y_HAH_:ITI&<y_KHAH_:ITI&<y_MEEM_:ITI&<y_HEH_:ITI&<
rHEH$MEEM_:ITI&<qJEEM$HAH_:ITI&<yH_MEEM_:ITI&<qHAH$JEEM_:ITI&<y_MEEM_:ITI&<qKHAH$JEEM_:ITI&<
yH_MEEM_:ITI&<qSE~$JEEM_:ITI&<yH_HAH_:ITI&<yH_KHAH_:ITI&<yH_MEEM_:ITI&<rAD$HAH_:ITI&<y_KHAH_:ITI&<
y_MEEM_:ITI&<qDAD$JEEM_:ITI&<y_HAH_:ITI&<y_KHAH_:ITI&<y_MEEM_:ITI&<qTAH$HAH_:ITI&<qZAH$MEEM_:ITI&<
qA:$JEEM_:ITI&<y_MEEM_:ITI&<qGHA:$JEEM_:ITI&<yTH_MEEM_:ITI&<qFEH$JEEM_:ITI&<y_HAH_:ITI&<
y_KHAH_:ITI&<y_MEEM_:ITI&<qQAF$HAH_:ITI&<y_MEEM_:ITI&<qKAF$JEEM_:ITI&<y_HAH_:ITI&<y_KHAH_:ITI&<
y_LAM_:ITI&<y_MEEM_:ITI&<qLAM$JEEM_:ITI&<y_HAH_:ITI&<y_KHAH_:ITI&<y_MEEM_:ITI&<y_HEH_:ITI&<
qMEEM$JEEM_:ITI&<yH_HAH_:ITI&<yH_KHAH_:ITI&<yH_MEEM_:ITI&<qNO@$JEEM_:ITI&<yH_HAH_:ITI&<
yH_KHAH_:ITI&<yH_MEEM_:ITI&<yH_HEH_:ITI&<qHEH$JEEM_:ITI&<y_MEEM_:ITI&<y>UP,SCRIPT_&EF_:ITI&<
qYEH$JEEM_:ITI&<y_HAH_:ITI&<y_KHAH_:ITI&<y_MEEM_:ITI&<y_HEH_:ITI&<y_HAMZA_ABOVE$MEEM_MEDI&<
y_HAMZA_ABOVE$HEH_MEDI&<qBEH$MEEM_MEDI&<y_HEH_MEDI&<qTEH$MEEM_MEDI&<y_HEH_MEDI&<rHEH$MEEM_MEDI&<
yH_HEH_MEDI&<qSE~$MEEM_MEDI&<yH_HEH_MEDI&<rHE~$MEEM_MEDI&<yTH_HEH_MEDI&<qKAF$LAM_MEDI&<y_MEEM_MEDI&<
qLAM$MEEM_MEDI&<qNO@$MEEM_MEDI&<yH_HEH_MEDI&<qYEH$MEEM_MEDI&<y_HEH_MEDI&<qSHADDA$FATHA_MEDI&<
yITH_DAMMA_MEDI&<yITH_KASRA_MEDI&<qTAH$&EF_MAKSURA_ISOLATED<y_YEH_ISOLATED<qA:$&EF_MAKSURA_ISOLATED<
y_YEH_ISOLATED<qGHA:$&EF_MAKSURA_ISOLATED<yTH_YEH_ISOLATED<qSE~$&EF_MAKSURA_ISOLATED<
yH_YEH_ISOLATED<rHE~$&EF_MAKSURA_ISOLATED<yTH_YEH_ISOLATED<qHAH$&EF_MAKSURA_ISOLATED<y_YEH_ISOLATED<
qJEEM$&EF_MAKSURA_ISOLATED<yH_YEH_ISOLATED<qKHAH$&EF_MAKSURA_ISOLATED<yH_YEH_ISOLATED<
qSAD$&EF_MAKSURA_ISOLATED<y_YEH_ISOLATED<qDAD$&EF_MAKSURA_ISOLATED<y_YEH_ISOLATED<
qSHE~$JEEM_ISOLATED<yTH_HAH_ISOLATED<yTH_KHAH_ISOLATED<yTH_MEEM_ISOLATED<yTH_REH_ISOLATED<
rE~$REH_ISOLATED<rAD$REH_ISOLATED<qDAD$REH_ISOLATED<qTAH$&EF_MAKSURA_F:&<y_YEH_F:&<
qA:$&EF_MAKSURA_F:&<y_YEH_F:&<qGHA:$&EF_MAKSURA_F:&<yTH_YEH_F:&<qSE~$&EF_MAKSURA_F:&<yH_YEH_F:&<
rHE~$&EF_MAKSURA_F:&<yTH_YEH_F:&<qHAH$&EF_MAKSURA_F:&<y_YEH_F:&<qJEEM$&EF_MAKSURA_F:&<yH_YEH_F:&<
qKHAH$&EF_MAKSURA_F:&<yH_YEH_F:&<qSAD$&EF_MAKSURA_F:&<y_YEH_F:&<qDAD$&EF_MAKSURA_F:&<y_YEH_F:&<
qSHE~$JEEM_F:&<yTH_HAH_F:&<yTH_KHAH_F:&<yTH_MEEM_F:&<yTH_REH_F:&<rE~$REH_F:&<rAD$REH_F:&<
qDAD$REH_F:&<qSHE~$JEEM_:ITI&<yTH_HAH_:ITI&<yTH_KHAH_:ITI&<yTH_MEEM_:ITI&<rE~$HEH_:ITI&<
rHE~$HEH_:ITI&<qTAH$MEEM_:ITI&<qSE~$JEEM_MEDI&<yH_HAH_MEDI&<yH_KHAH_MEDI&<rHE~$JEEM_MEDI&<
yTH_HAH_MEDI&<yTH_KHAH_MEDI&<qTAH$MEEM_MEDI&<qZAH$MEEM_MEDI&<q&EF$FATHAT=_F:&<yH_FATHAT=_ISOLATED<
aORNAT;|FT_P+~THESIShR._P+~THESISa+ABIC_LIGATUR;RAHIMAHU_&LAAHsDI_&LAAHU_=HyAAHU_=HAAyAAHU_=HUM
yAAHU_=HUMAAyAAHU_=HUNNAqS&L&LAAHU_&AYHI_WA-A&IHq&AYHI_AS-S&AAMwM_AS-S&AAMxAA_AS-S&AAM
w_AS-S&AATU_WAS-S&AAMqQUDDISA>IRRAHqS&L&LAHU_&AYHI_WAA&IHE;WA-S&LAMq&AYHAA_AS-S&AAM
qTABA+AKA_WA-TAA&AAqRAHIMAHUM_&LAAHqTEH$JEEM$MEEM_:ITI&<y_HAH$JEEM_F:&<y_HAH$JEEM_:ITI&<
y_HAH$MEEM_:ITI&<y_KHAH$MEEM_:ITI&<y_MEEM$JEEM_:ITI&<y_MEEM$HAH_:ITI&<y_MEEM$KHAH_:ITI&<
qJEEM$MEEM$HAH_F:&<yH_MEEM$HAH_:ITI&<qHAH$MEEM$YEH_F:&<y_MEEM$&EF_MAKSURA_F:&<qSE~$HAH$JEEM_:ITI&<
yH_JEEM$HAH_:ITI&<yH_JEEM$&EF_MAKSURA_F:&<yH_MEEM$HAH_F:&<yH_MEEM$HAH_:ITI&<yH_MEEM$JEEM_:ITI&<
yH_MEEM$MEEM_F:&<yH_MEEM$MEEM_:ITI&<rAD$HAH$HAH_F:&<y_HAH$HAH_:ITI&<y_MEEM$MEEM_F:&<
rHE~$HAH$MEEM_F:&<yTH_HAH$MEEM_:ITI&<yTH_JEEM$YEH_F:&<yTH_MEEM$KHAH_F:&<yTH_MEEM$KHAH_:ITI&<
yTH_MEEM$MEEM_F:&<yTH_MEEM$MEEM_:ITI&<qDAD$HAH$&EF_MAKSURA_F:&<y_KHAH$MEEM_F:&<y_KHAH$MEEM_:ITI&<
qTAH$MEEM$HAH_F:&<y_MEEM$HAH_:ITI&<y_MEEM$MEEM_:ITI&<y_MEEM$YEH_F:&<qA:$JEEM$MEEM_F:&<
y_MEEM$MEEM_F:&<y_MEEM$MEEM_:ITI&<y_MEEM$&EF_MAKSURA_F:&<qGHA:$MEEM$MEEM_F:&<yTH_MEEM$YEH_F:&<
yTH_MEEM$&EF_MAKSURA_F:&<qFEH$KHAH$MEEM_F:&<y_KHAH$MEEM_:ITI&<qQAF$MEEM$HAH_F:&<y_MEEM$MEEM_F:&<
qLAM$HAH$MEEM_F:&<y_HAH$YEH_F:&<y_HAH$&EF_MAKSURA_F:&<y_JEEM$JEEM_:ITI&<y_JEEM$JEEM_F:&<
y_KHAH$MEEM_F:&<y_KHAH$MEEM_:ITI&<y_MEEM$HAH_F:&<y_MEEM$HAH_:ITI&<qMEEM$HAH$JEEM_:ITI&<
yH_HAH$MEEM_:ITI&<yH_HAH$YEH_F:&<yH_JEEM$HAH_:ITI&<yH_JEEM$MEEM_:ITI&<yH_KHAH$JEEM_:ITI&<
yH_KHAH$MEEM_:ITI&<zFD92yH_JEEM$KHAH_:ITI&<qHEH$MEEM$JEEM_:ITI&<y_MEEM$MEEM_:ITI&<
qNO@$HAH$MEEM_:ITI&<yH_HAH$&EF_MAKSURA_F:&<yH_JEEM$MEEM_F:&<yH_JEEM$MEEM_:ITI&<
yH_JEEM$&EF_MAKSURA_F:&<yH_MEEM$YEH_F:&<yH_MEEM$&EF_MAKSURA_F:&<qYEH$MEEM$MEEM_F:&<
y_MEEM$MEEM_:ITI&<qBEH$KHAH$YEH_F:&<qTEH$JEEM$YEH_F:&<y_JEEM$&EF_MAKSURA_F:&<y_KHAH$YEH_F:&<
y_KHAH$&EF_MAKSURA_F:&<y_MEEM$YEH_F:&<y_MEEM$&EF_MAKSURA_F:&<qJEEM$MEEM$YEH_F:&<
yH_HAH$&EF_MAKSURA_F:&<yH_MEEM$&EF_MAKSURA_F:&<qSE~$KHAH$&EF_MAKSURA_F:&<rAD$HAH$YEH_F:&<
rHE~$HAH$YEH_F:&<qDAD$HAH$YEH_F:&<qLAM$JEEM$YEH_F:&<y_MEEM$YEH_F:&<qYEH$HAH$YEH_F:&<y_JEEM$YEH_F:&<
y_MEEM$YEH_F:&<qMEEM$MEEM$YEH_F:&<qQAF$MEEM$YEH_F:&<qNO@$HAH$YEH_F:&<qQAF$MEEM$HAH_:ITI&<
qLAM$HAH$MEEM_:ITI&<qA:$MEEM$YEH_F:&<qKAF$MEEM$YEH_F:&<qNO@$JEEM$HAH_:ITI&<qMEEM$KHAH$YEH_F:&<
qLAM$JEEM$MEEM_:ITI&<qKAF$MEEM$MEEM_F:&<qLAM$JEEM$MEEM_F:&<qNO@$JEEM$HAH_F:&<qJEEM$HAH$YEH_F:&<
qHAH$JEEM$YEH_F:&<qMEEM$JEEM$YEH_F:&<qFEH$MEEM$YEH_F:&<qBEH$HAH$YEH_F:&<qKAF$MEEM$MEEM_:ITI&<
qA:$JEEM$MEEM_:ITI&<qSAD$MEEM$MEEM_:ITI&<rE~$KHAH$YEH_F:&<qNO@$JEEM$YEH_F:&<zFDCFqS&AAMUHU_&AYNAA
zFDF0tLA_USE^AS_KOR=IC>TOP>IGN_ISOLATED<qQ&A_USE^AS_KOR=IC>TOP>IGN_ISOLATED<q&LAH_ISOLATED<
rKB+_ISOLATED<qMOHAMMA^ISOLATED<qS&AM_ISOLATED<qRASOUL_ISOLATED<q&AYH;ISOLATED<qWAS&LAM_ISOLATED<
qS&LA_ISOLATED<vLLAHOU_&AYH;WAS&LAMqJ&LAJ&&OUHOUaRI&>IGNa+ABIC_LIGATUR;BISMILLAH_+-RAHM=_+-RAHEEM
qSUBHA=AHU_WA_TAA&AAqAZZA_WA_J&LaV+IATI@>E|CTOR-1t2t3t4t5t6t7t8t9t10u1u2u3u4u5u6
aPRES~TATI@<_FOR_V,TIC&_COMMAyRTIC&_IDEOGRAPHIC_COMMAyRTIC&_IDEOGRAPHIC_FULL>TOPyRTIC&_COL@
yRTIC&>EMICOL@yRTIC&_EXCLAMATI@_M+KyRTIC&_QUESTI@_M+KyRTIC&_|FT_WHIT;|NTICUL+_BRACKET
yRTIC&_R._WHIT;|NTICUL+_BRAKCETyRTIC&_HORIZ@T&_ELLIPSISzFE20aCOMB::G_LIGATUR;|FT_H&FtR._H&F
kDOUBL;TILD;|FT_H&FxR._H&FkMACR@_|FT_H&FrR._H&FkC@JO::G_MACR@kLIGATUR;|FT_H&F_BELOWtR._H&F_BELOW
kTILD;|FT_H&F_BELOWqR._H&F_BELOWkMACR@_|FT_H&F_BELOWrR._H&F_BELOWkC@JO::G_MACR@_BELOW
lYRILLIC_TITLO_|FT_H&Fy_R._H&FaPRES~TATI@<_FOR_V,TIC&_TWO_DOT_|AD,yRTIC&_EM_DASHyRTIC&_~_DASH
yRTIC&_LOW_L:EyRTIC&_WAVY_LOW_L:EyRTIC&_|FT_P+~THESISyRTIC&_R._P+~THESISyRTIC&_|FT_CURLY_BRACKET
yRTIC&_R._CURLY_BRACKETyRTIC&_|FT_TORTOIS;SHELL_BRACKETyRTIC&_R._TORTOIS;SHELL_BRACKET
yRTIC&_|FT_BLACK_|NTICUL+_BRACKETyRTIC&_R._BLACK_|NTICUL+_BRACKETyRTIC&_|FT_DOUBL;=GL;BRACKET
yRTIC&_R._DOUBL;=GL;BRACKETyRTIC&_|FT_=GL;BRACKETyRTIC&_R._=GL;BRACKETyRTIC&_|FT_CORN,_BRACKET
yRTIC&_R._CORN,_BRACKETyRTIC&_|FT_WHIT;CORN,_BRACKETyRTIC&_R._WHIT;CORN,_BRACKETaSESAM;DOT
aWHIT;SESAM;DOTaPRES~TATI@<_FOR_V,TIC&_|FT>QU+;BRACKETyRTIC&_R.>QU+;BRACKETaDASHE^OV,L:E
aC~TREL:;OV,L:EaWAVY_OV,L:EaDOUBL;WAVY_OV,L:EbASHE^LOW_L:EaC~TREL:;LOW_L:EaWAVY_LOW_L:EaSM&L_COMMA
gIDEOGRAPHIC_COMMAgFULL>TOPzFE54gSEMICOL@gCOL@gQUESTI@_M+KgEXCLAMATI@_M+KhM_DASHg|FT_P+~THESIS
gR._P+~THESISg|FT_CURLY_BRACKETgR._CURLY_BRACKETg|FT_TORTOIS;SHELL_BRACKETgR._TORTOIS;SHELL_BRACKET
gNUMB,>IGNgAMP,S=DhST,ISKgPLUS>IGNgHYPH~-M:USg|SS-TH=>IGNgGREAT,-TH=>IGNgEQU&S>IGN
zFE68gREV,S;SOLIDUSgDOLL+>IGNgP,C~T>IGNgCOMM,CI&_ATzFE70a+ABIC_FATHAT=_ISOLATED<
hTATWEEL$FATHAT=_ABOVEhDAMMAT=_ISOLATED<hTAIL_FRAGM~ThKASRAT=_ISOLATED<zFE76hFATHA_ISOLATED<nMEDI&<
hDAMMA_ISOLATED<nMEDI&<hKASRA_ISOLATED<nMEDI&<hSHADDA_ISOLATED<oMEDI&<iUKUN_ISOLATED<nMEDI&<
h|TT,_HAMZA_ISOLATED<o&EF$MADDA_ABOV;ISOLATED<yMADDA_ABOV;F:&<yHAMZA_ABOV;ISOLATED<yHAMZA_ABOV;F:&<
oWAW$HAMZA_ABOV;ISOLATED<yAMZA_ABOV;F:&<o&EF$HAMZA_BELOW_ISOLATED<yHAMZA_BELOW_F:&<
oYEH$HAMZA_ABOV;ISOLATED<yAMZA_ABOV;F:&<yAMZA_ABOV;:ITI&<yAMZA_ABOV;MEDI&<o&EF_ISOLATED<tF:&<
oBEH_ISOLATED<sF:&<s:ITI&<sMEDI&<oTEH_M+BUTA_ISOLATED<yA_F:&<sISOLATED<sF:&<s:ITI&<sMEDI&<
pHEH_ISOLATED<tF:&<t:ITI&<tMEDI&<oJEEM_ISOLATED<tF:&<t:ITI&<tMEDI&<oHAH_ISOLATED<sF:&<s:ITI&<sMEDI&<
oKHAH_ISOLATED<tF:&<t:ITI&<tMEDI&<oD&_ISOLATED<sF:&<oTH&_ISOLATED<tF:&<oREH_ISOLATED<sF:&<
oZA:_ISOLATED<tF:&<oSE~_ISOLATED<tF:&<t:ITI&<tMEDI&<pHE~_ISOLATED<uF:&<u:ITI&<uMEDI&<pA^ISOLATED<
sF:&<s:ITI&<sMEDI&<oDA^ISOLATED<sF:&<s:ITI&<sMEDI&<oTAH_ISOLATED<sF:&<s:ITI&<sMEDI&<oZAH_ISOLATED<
sF:&<s:ITI&<sMEDI&<oA:_ISOLATED<sF:&<s:ITI&<sMEDI&<oGHA:_ISOLATED<uF:&<u:ITI&<uMEDI&<oFEH_ISOLATED<
sF:&<s:ITI&<sMEDI&<oQAF_ISOLATED<sF:&<s:ITI&<sMEDI&<oKAF_ISOLATED<sF:&<s:ITI&<sMEDI&<oLAM_ISOLATED<
sF:&<s:ITI&<sMEDI&<oMEEM_ISOLATED<tF:&<t:ITI&<tMEDI&<oNO@_ISOLATED<tF:&<t:ITI&<tMEDI&<oHEH_ISOLATED<
sF:&<s:ITI&<sMEDI&<oWAW_ISOLATED<sF:&<o&EF_MAKSURA_ISOLATED<yRA_F:&<oYEH_ISOLATED<sF:&<s:ITI&<
sMEDI&<iIGATUR;LAM$&EF$MADDA_ABOV;ISOLATED<y_&EF$MADDA_ABOV;F:&<y_&EF$HAMZA_ABOV;ISOLATED<
y_&EF$HAMZA_ABOV;F:&<y_&EF$HAMZA_BELOW_ISOLATED<y_&EF$HAMZA_BELOW_F:&<y_&EF_ISOLATED<y_&EF_F:&<
zFEFFaZ,O_WIDTH_NO-BREAK>PACEzFF01aFULLWIDTH_EXCLAMATI@_M+KkQUOTATI@_M+KkNUMB,>IGNkDOLL+>IGN
kP,C~T>IGNkAMP,S=DlPOSTROPHEk|FT_P+~THESISkR._P+~THESISkAST,ISKkPLUS>IGNkCOMMAkHYPH~-M:USkFULL>TOP
kSOLIDUSkDIGIT_Z,Oq@EqTWOrHREEqFOURrIVEqSIXrEV~qE.qN:EkCOL@kSEMICOL@k|SS-TH=>IGNkEQU&S>IGN
kGREAT,-TH=>IGNkQUESTI@_M+KkCOMM,CI&_ATkLAT:_%!Ay|TT,_By|TT,_Cy|TT,_Dy|TT,_Ey|TT,_Fy|TT,_Gy|TT,_H
y|TT,_Iy|TT,_Jy|TT,_Ky|TT,_Ly|TT,_My|TT,_Ny|TT,_Oy|TT,_Py|TT,_Qy|TT,_Ry|TT,>y|TT,_Ty|TT,_Uy|TT,_V
y|TT,_Wy|TT,_Xy|TT,_Yy|TT,_ZlEFT>QU+;BRACKETkREV,S;SOLIDUSl.>QU+;BRACKETkCIRCUMF|X_ACC~TkLOW_L:E
kGRAV;ACC~TkLAT:>M&!AyTT,_ByTT,_CyTT,_DyTT,_EyTT,_FyTT,_GyTT,_HyTT,_IyTT,_JyTT,_KyTT,_LyTT,_MyTT,_N
yTT,_OyTT,_PyTT,_QyTT,_RyTT,>yTT,_TyTT,_UyTT,_VyTT,_WyTT,_XyTT,_YyTT,_ZlEFT_CURLY_BRACKETkV,TIC&_L:E
kR._CURLY_BRACKETkTILDEk|FT_WHIT;P+~THESISkR._WHIT;P+~THESISaH&FWIDTH_IDEOGRAPHIC_FULL>TOP
k|FT_CORN,_BRACKETkR._CORN,_BRACKETkIDEOGRAPHIC_COMMAkKATAK=A_MIDDL;DOTt|TT,_WOyR>M&L_AyR>M&L_I
yR>M&L_UyR>M&L_EyR>M&L_OyR>M&L_YAyR>M&L_YUyR>M&L_YOyR>M&L_TUs-HIRAG=A_PROL@GED>OUN^M+Ks_|TT,_AyR_I
yR_UyR_EyR_OyR_KAyR_KIyR_KUyR_KEyR_KOyR>AyR>IyR>UyR>EyR>OyR_TAyR_TIyR_TUyR_TEyR_TOyR_NAyR_NIyR_NU
yR_NEyR_NOyR_HAyR_HIyR_HUyR_HEyR_HOyR_MAyR_MIyR_MUyR_MEyR_MOyR_YAyR_YUyR_YOyR_RAyR_RIyR_RUyR_REyR_RO
yR_WAyR_NtVOICED>OUN^M+KtSEMI-VOICED>OUN^M+KkH=GUL_FILL,r|TT,_KIYEOKySS=GKIYEOKyKIYEOK-SIOSyNIEUN
yNIEUN-CIEUCyNIEUN-HIEUHyTIKEUTySS=GTIKEUTyRIEULyRIEUL-KIYEOKyRIEUL-MIEUMyRIEUL-PIEUPyRIEUL-SIOS
yRIEUL-THIEUTHyRIEUL-PHIEUPHyRIEUL-HIEUHyMIEUMyPIEUPySS=GPIEUPyPIEUP-SIOSySIOSySS=GSIOSyIEUNGyCIEUC
ySS=GCIEUCyCHIEUCHyKHIEUKHyTHIEUTHyPHIEUPHyHIEUHzFFC2yAyAEyYAyYAEyEOyEzFFCAyYEOyYEyOyWAyWAEyOE
zFFD2yYOyUyWEOyWEyWIyYUzFFDAyEUyYIyIzFFE0aFULLWIDTH_C~T>IGNkPOUND>IGNkNOT>IGNkMACR@kBROK~_B+kY~>IGN
kW@>IGNzFFE8aH&FWIDTH<S_L._V,TIC&k|FTW+DS_+ROWkUPW+DS_+ROWkR.W+DS_+ROWkDOWNW+DS_+ROWkBLACK>QU+E
kWHIT;CIRC|zFFF9a:T,L:E+_=NOTATI@_=CHORxSEP+ATORxT,M:ATORaOBJECT_REPLACEM~T_CH+ACT,
aREPLACEM~T_CH+ACT,"

end Conform
